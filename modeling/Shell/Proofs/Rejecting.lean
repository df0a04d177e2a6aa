import Mathlib.Data.List.Forall2
import Mathlib.Data.Nat.Find
import Shell.Command.Parse
import Shell.Proofs.Reading

/-!
# Commands — which runs of tokens are none

A redirect is sound where its operator is known and a word with characters stands right behind it
(`Command.SoundAt`).  Soundness is a matter of one place and the next one, and so is what is wrong
where it is missing (`Command.DefectAt`), while the reader walks over the tokens and skips a target
together with its operator.  `Command.gather_of_sound` and `Command.gather_of_defectAt` relate the
two, by induction on the walk.

`Command.ofTokens_leftmost`: a run is a command just when every redirect in it is sound and some
word is no target, and it is refused at its leftmost defect otherwise, whatever stands behind.
-/

namespace Shell

/-- The text of a word that is no target, if it has characters; an operator in front of a word makes
it a target. -/
def Token.freeText? : Option Token → Token → Option String
  | some (.operator _), _ => none
  | _, .word text => if text = "" then none else some text
  | _, .operator _ => none

/-- An operator and the word right behind it. -/
def Token.pair? : Token → Token → Option (String × String)
  | .operator spelling, .word text => some (spelling, text)
  | _, _ => none

/-- A redirect is the one that an operator and the text of its target stand for. -/
def Redirect.IsSpelledBy (redirect : Redirect) (pair : String × String) : Prop :=
  pair.1 ∈ redirect.kind.spellings ∧ redirect.target.text = pair.2

theorem Word.text_injective : Function.Injective Word.text := by
  rintro ⟨text, _⟩ ⟨text', _⟩ rfl
  rfl

theorem Redirect.leftUnique_isSpelledBy : Relator.LeftUnique Redirect.IsSpelledBy := by
  rintro ⟨kind, target⟩ ⟨kind', target'⟩ ⟨spelling, text⟩ ⟨spelled, rfl⟩ ⟨spelled', same⟩
  have kinds : kind = kind' := Option.some.inj <|
    (RedirectKind.ofSpelling?_of_mem spelled).symm.trans (RedirectKind.ofSpelling?_of_mem spelled')
  have targets : target = target' := (Word.text_injective same).symm
  rw [kinds, targets]

namespace Command

/-- If a redirect stands at a place, then it is sound. -/
def SoundAt (tokens : List Token) (i : Nat) : Prop :=
  ∀ spelling, tokens[i]? = some (.operator spelling) →
    spelling ∈ Token.operators ∧ ∃ target : Word, tokens[i + 1]? = some (.word target.text)

/-- What is wrong with the redirect at a place, and how many of its tokens tell. -/
inductive DefectAt (tokens : List Token) (i : Nat) : ParseError.Cause → Nat → Prop where
  | unknown {spelling : String} (here : tokens[i]? = some (.operator spelling))
      (unknown : spelling ∉ Token.operators) : DefectAt tokens i (.unknownOperator spelling) 1
  | operator {spelling next : String} (here : tokens[i]? = some (.operator spelling))
      (known : spelling ∈ Token.operators) (behind : tokens[i + 1]? = some (.operator next)) :
      DefectAt tokens i (.operatorAsTarget next) 2
  | emptyWord {spelling : String} (here : tokens[i]? = some (.operator spelling))
      (known : spelling ∈ Token.operators) (behind : tokens[i + 1]? = some (.word "")) :
      DefectAt tokens i (.missingTarget spelling) 2
  | nothing {spelling : String} (here : tokens[i]? = some (.operator spelling))
      (known : spelling ∈ Token.operators) (behind : tokens[i + 1]? = none) :
      DefectAt tokens i (.missingTarget spelling) 1

/-- The words with characters that are no targets, when some token stands before the first. -/
def freeTextsBehind (before : Option Token) (tokens : List Token) : List String :=
  ((before :: tokens.map some).zip tokens).filterMap fun (before, token) =>
    Token.freeText? before token

/-- The words with characters that are no targets, in their order. -/
def freeTexts (tokens : List Token) : List String :=
  freeTextsBehind none tokens

/-- The operators with the words right behind them, in their order. -/
def pairs (tokens : List Token) : List (String × String) :=
  (tokens.zip tokens.tail).filterMap fun (token, next) => Token.pair? token next

variable {token : Token} {tokens rest others : List Token} {i looked position : Nat}
  {cause : ParseError.Cause}

/-! ### Places -/

/-- Of two places where one thing stands, either both are sound or none. -/
theorem SoundAt.congr (here : others[i]? = tokens[i]?) (next : others[i + 1]? = tokens[i + 1]?)
    (sound : SoundAt tokens i) : SoundAt others i := by
  simpa only [SoundAt, here, next] using sound

theorem DefectAt.congr (here : others[i]? = tokens[i]?) (next : others[i + 1]? = tokens[i + 1]?)
    (defective : DefectAt tokens i cause looked) : DefectAt others i cause looked := by
  cases defective with
  | unknown h unknown => exact .unknown (here.trans h) unknown
  | operator h known behind => exact .operator (here.trans h) known (next.trans behind)
  | emptyWord h known behind => exact .emptyWord (here.trans h) known (next.trans behind)
  | nothing h known behind => exact .nothing (here.trans h) known (next.trans behind)

theorem DefectAt.tail (defective : DefectAt (token :: rest) (i + 1) cause looked) :
    DefectAt rest i cause looked := by
  cases defective with
  | unknown here unknown => exact .unknown here unknown
  | operator here known behind => exact .operator here known behind
  | emptyWord here known behind => exact .emptyWord here known behind
  | nothing here known behind => exact .nothing here known behind

theorem DefectAt.exists_operator (defective : DefectAt tokens i cause looked) :
    ∃ spelling, tokens[i]? = some (.operator spelling) := by
  cases defective <;> exact ⟨_, ‹_›⟩

/-- A defect is what keeps a redirect from being sound. -/
theorem not_soundAt_iff : ¬ SoundAt tokens i ↔ ∃ cause looked, DefectAt tokens i cause looked := by
  constructor
  · intro unsound
    simp only [SoundAt, not_forall] at unsound
    obtain ⟨spelling, here, bad⟩ := unsound
    by_cases known : spelling ∈ Token.operators
    · match behind : tokens[i + 1]? with
      | none => exact ⟨_, _, .nothing here known behind⟩
      | some (.operator next) => exact ⟨_, _, .operator here known behind⟩
      | some (.word text) =>
          by_cases empty : text = ""
          · exact ⟨_, _, .emptyWord here known (behind.trans (by rw [empty]))⟩
          · exact absurd ⟨known, ⟨text, empty⟩, behind⟩ bad
    · exact ⟨_, _, .unknown here known⟩
  · rintro ⟨cause, looked, defective⟩ sound
    cases defective with
    | unknown here unknown => exact unknown (sound _ here).1
    | operator here known behind | nothing here known behind =>
        obtain ⟨-, target, word⟩ := sound _ here
        rw [behind] at word
        cases word
    | emptyWord here known behind =>
        obtain ⟨-, target, word⟩ := sound _ here
        rw [behind] at word
        exact target.nonempty (by simpa using word.symm)

/-! ### Words and redirects -/

theorem freeTextsBehind_cons (before : Option Token) (token : Token) (rest : List Token) :
    freeTextsBehind before (token :: rest)
      = (Token.freeText? before token).toList ++ freeTextsBehind (some token) rest := by
  cases free : Token.freeText? before token <;> simp [freeTextsBehind, free]

/-- A word makes no target of the word behind it. -/
theorem freeTextsBehind_word (text : String) (tokens : List Token) :
    freeTextsBehind (some (.word text)) tokens = freeTexts tokens := by
  cases tokens with
  | nil => rfl
  | cons token rest =>
      rw [freeTexts, freeTextsBehind_cons, freeTextsBehind_cons]
      cases token <;> rfl

theorem freeTexts_word (text : String) (rest : List Token) :
    freeTexts (.word text :: rest)
      = ((Word.ofText? text).toList.map Word.text) ++ freeTexts rest := by
  rw [freeTexts, freeTextsBehind_cons, freeTextsBehind_word]
  by_cases empty : text = "" <;> simp [Token.freeText?, Word.ofText?, empty]

theorem freeTexts_redirect (spelling text : String) (rest : List Token) :
    freeTexts (.operator spelling :: .word text :: rest) = freeTexts rest := by
  rw [freeTexts, freeTextsBehind_cons, freeTextsBehind_cons, freeTextsBehind_word]
  rfl

theorem pairs_word (text : String) (rest : List Token) :
    pairs (.word text :: rest) = pairs rest := by
  cases rest <;> rfl

theorem pairs_redirect (spelling text : String) (rest : List Token) :
    pairs (.operator spelling :: .word text :: rest) = (spelling, text) :: pairs rest := by
  rw [← pairs_word text rest]
  rfl

/-! ### The walk over the tokens -/

/-- Induction along the walk: a word is passed by itself, and a target together with its
operator. -/
@[elab_as_elim]
theorem walk {motive : List Token → Prop} (nil : motive [])
    (word : ∀ text rest, motive rest → motive (.word text :: rest))
    (redirect : ∀ spelling text rest, motive rest →
      motive (.operator spelling :: .word text :: rest))
    (stuck : ∀ spelling rest, (∀ text, rest[0]? ≠ some (.word text)) →
      motive (.operator spelling :: rest)) :
    ∀ tokens, motive tokens
  | [] => nil
  | .word text :: rest => word text rest (walk nil word redirect stuck rest)
  | .operator spelling :: .word text :: rest =>
      redirect spelling text rest (walk nil word redirect stuck rest)
  | [.operator spelling] => stuck spelling [] (by simp)
  | .operator spelling :: .operator next :: rest =>
      stuck spelling (.operator next :: rest) (by simp)

/-- The operator that a sound run starts with stands for a kind, and its target comes next. -/
theorem exists_of_soundAt_zero {spelling : String}
    (sound : SoundAt (.operator spelling :: rest) 0) :
    ∃ (kind : RedirectKind) (target : Word), RedirectKind.ofSpelling? spelling = some kind
      ∧ rest[0]? = some (.word target.text) := by
  obtain ⟨known, target, next⟩ := sound spelling rfl
  obtain ⟨kind, spells⟩ := Option.isSome_iff_exists.mp (RedirectKind.isSpelling_iff.mpr known)
  exact ⟨kind, target, spells, next⟩

/-- Sound redirects are gathered, and the words between them. -/
theorem gather_of_sound (sound : ∀ i, SoundAt tokens i) (position : Nat) :
    ∃ words redirects, gather position tokens = .ok (words, redirects)
      ∧ words.map Word.text = freeTexts tokens
      ∧ List.Forall₂ Redirect.IsSpelledBy redirects (pairs tokens) := by
  induction tokens using walk generalizing position with
  | nil => exact ⟨[], [], rfl, rfl, .nil⟩
  | word text rest ih =>
      obtain ⟨words, redirects, gathered, texts, spelled⟩ :=
        ih (fun i => sound (i + 1)) (position + 1)
      refine ⟨_, redirects, by simp only [gather, gathered]; rfl, ?_, ?_⟩
      · rw [freeTexts_word, List.map_append, texts]
      · rwa [pairs_word]
  | redirect spelling text rest ih =>
      obtain ⟨kind, target, spells, next⟩ := exists_of_soundAt_zero (sound 0)
      obtain rfl : text = target.text := by simpa using next
      obtain ⟨words, redirects, gathered, texts, spelled⟩ :=
        ih (fun i => sound (i + 2)) (position + 2)
      refine ⟨words, { kind, target } :: redirects, ?_, ?_, ?_⟩
      · simp [gather, spells, gathered]
      · rw [freeTexts_redirect, texts]
      · rw [pairs_redirect]
        exact .cons ⟨RedirectKind.ofSpelling?_eq_some_iff.mp spells, rfl⟩ spelled
  | stuck spelling rest apart =>
      obtain ⟨kind, target, -, next⟩ := exists_of_soundAt_zero (sound 0)
      exact absurd next (apart _)

/-- The walk does not get past an operator that is not the start of a sound redirect. -/
theorem gather_of_defectAt_zero {spelling : String}
    (defective : DefectAt (.operator spelling :: rest) 0 cause looked) (position : Nat) :
    gather position (.operator spelling :: rest) = .error ⟨cause, position + looked⟩ := by
  have spells (known : spelling ∈ Token.operators) :
      ∃ kind, RedirectKind.ofSpelling? spelling = some kind :=
    Option.isSome_iff_exists.mp (RedirectKind.isSpelling_iff.mpr known)
  cases defective with
  | unknown here unknown =>
      cases here
      simp [gather, RedirectKind.ofSpelling?_eq_none_iff.mpr unknown]
  | @operator _ next here known behind =>
      cases here
      obtain ⟨kind, spells⟩ := spells known
      obtain ⟨rest, rfl⟩ : ∃ more, rest = .operator next :: more := by
        cases rest <;> simp_all
      simp [gather, spells]
  | emptyWord here known behind =>
      cases here
      obtain ⟨kind, spells⟩ := spells known
      obtain ⟨rest, rfl⟩ : ∃ more, rest = .word "" :: more := by
        cases rest <;> simp_all
      simp [gather, spells]
  | nothing here known behind =>
      cases here
      obtain ⟨kind, spells⟩ := spells known
      obtain rfl : rest = [] := by
        cases rest <;> simp_all
      simp [gather, spells]

/-- A defect stops the walk if everything before it is sound. -/
theorem gather_of_defectAt (defective : DefectAt tokens i cause looked)
    (sound : ∀ j < i, SoundAt tokens j) (position : Nat) :
    gather position tokens = .error ⟨cause, position + i + looked⟩ := by
  induction tokens using walk generalizing i position with
  | nil => cases defective <;> contradiction
  | word text rest ih =>
      cases i with
      | zero =>
          obtain ⟨spelling, here⟩ := defective.exists_operator
          cases here
      | succ i =>
          have later := ih defective.tail (fun j lt => sound (j + 1) (by omega)) (position + 1)
          simp only [gather, later, Except.error.injEq, ParseError.mk.injEq, true_and]
          omega
  | redirect spelling text rest ih =>
      match i with
      | 0 => exact gather_of_defectAt_zero defective position
      | 1 =>
          -- the text behind an operator is no operator
          obtain ⟨next, here⟩ := defective.exists_operator
          cases here
      | i + 2 =>
          obtain ⟨kind, target, spells, next⟩ := exists_of_soundAt_zero (sound 0 (by omega))
          obtain rfl : text = target.text := by simpa using next
          have later := ih defective.tail.tail (fun j lt => sound (j + 2) (by omega)) (position + 2)
          simp [gather, spells, later, Nat.add_assoc, Nat.add_left_comm]
  | stuck spelling rest apart =>
      cases i with
      | zero => exact gather_of_defectAt_zero defective position
      | succ i =>
          obtain ⟨kind, target, -, next⟩ := exists_of_soundAt_zero (sound 0 (by omega))
          exact absurd next (apart _)

theorem ofTokens_of_defectAt (defective : DefectAt tokens i cause looked)
    (sound : ∀ j < i, SoundAt tokens j) : ofTokens tokens = .error ⟨cause, i + looked⟩ := by
  rw [ofTokens, gather_of_defectAt defective sound, Nat.zero_add]

/-- Of the redirects that are not sound, one comes first. -/
theorem exists_leftmost (unsound : ¬ SoundAt tokens i) :
    ∃ i cause looked, (∀ j < i, SoundAt tokens j) ∧ DefectAt tokens i cause looked := by
  classical
  have some : ∃ i, ¬ SoundAt tokens i := ⟨i, unsound⟩
  obtain ⟨cause, looked, defective⟩ := not_soundAt_iff.mp (Nat.find_spec some)
  have before : ∀ j < Nat.find some, SoundAt tokens j := fun j lt =>
    not_not.mp (Nat.find_min some lt)
  exact ⟨_, cause, looked, before, defective⟩

/-- A run is no command if a redirect in it is not sound. -/
theorem sound_of_ofTokens {command : Command} (h : ofTokens tokens = .ok command) (i : Nat) :
    SoundAt tokens i := by
  by_contra unsound
  obtain ⟨i, cause, looked, sound, defective⟩ := exists_leftmost unsound
  rw [ofTokens_of_defectAt defective sound] at h
  cases h

/-- What a sound run comes to. -/
theorem ofTokens_of_sound (sound : ∀ i, SoundAt tokens i) :
    (freeTexts tokens = [] ∧ ofTokens tokens = .error ⟨.noCommand, tokens.length⟩)
      ∨ ∃ command, ofTokens tokens = .ok command ∧ command.argv = freeTexts tokens
        ∧ List.Forall₂ Redirect.IsSpelledBy command.redirects (pairs tokens) := by
  obtain ⟨words, redirects, gathered, texts, spelled⟩ := gather_of_sound sound 0
  cases words with
  | nil => exact .inl ⟨texts.symm, by simp [ofTokens, gathered, ofWords?]⟩
  | cons name arguments =>
      exact .inr ⟨{ name, arguments, redirects }, by simp [ofTokens, gathered, ofWords?], texts,
        spelled⟩

/-- A command has its words and redirects from the texts that stand for them. -/
theorem eq_of_argv_eq {command command' : Command} {pairs : List (String × String)}
    (argv : command.argv = command'.argv)
    (spelled : List.Forall₂ Redirect.IsSpelledBy command.redirects pairs)
    (spelled' : List.Forall₂ Redirect.IsSpelledBy command'.redirects pairs) :
    command = command' := by
  have words : command.words = command'.words :=
    List.map_injective_iff.mpr Word.text_injective argv
  have redirects : command.redirects = command'.redirects :=
    List.left_unique_forall₂' Redirect.leftUnique_isSpelledBy spelled spelled'
  have rebuilt := ofWords?_words command
  rw [words, redirects, ofWords?_words] at rebuilt
  exact (Option.some.inj rebuilt).symm

/-- The command that a run comes to, and when it does. -/
theorem ofTokens_eq_ok_iff {command : Command} :
    ofTokens tokens = .ok command ↔ (∀ i, SoundAt tokens i) ∧ command.argv = freeTexts tokens
      ∧ List.Forall₂ Redirect.IsSpelledBy command.redirects (pairs tokens) := by
  constructor
  · intro h
    have sound := sound_of_ofTokens h
    obtain ⟨-, failed⟩ | ⟨command', h', spelled⟩ := ofTokens_of_sound sound
    · rw [failed] at h
      cases h
    · obtain rfl : command' = command := by simpa using h'.symm.trans h
      exact ⟨sound, spelled⟩
  · rintro ⟨sound, argv, spelled⟩
    obtain ⟨none, -⟩ | ⟨command', h', argv', spelled'⟩ := ofTokens_of_sound sound
    · rw [none] at argv
      cases argv
    · rw [h', eq_of_argv_eq (argv'.trans argv.symm) spelled' spelled]

theorem exists_ofTokens_iff :
    (∃ command, ofTokens tokens = .ok command) ↔
      (∀ i, SoundAt tokens i) ∧ freeTexts tokens ≠ [] := by
  constructor
  · rintro ⟨command, h⟩
    obtain ⟨sound, argv, -⟩ := ofTokens_eq_ok_iff.mp h
    refine ⟨sound, ?_⟩
    rw [← argv]
    exact List.cons_ne_nil _ _
  · rintro ⟨sound, some⟩
    obtain ⟨none, -⟩ | ⟨command, h, -⟩ := ofTokens_of_sound sound
    · exact absurd none some
    · exact ⟨command, h⟩

theorem DefectAt.exists_operator? (defective : DefectAt tokens i cause looked) :
    ∃ spelling, cause.operator? = some spelling
      ∧ ∃ j < i + looked, tokens[j]? = some (.operator spelling) := by
  cases defective with
  | unknown here _ => exact ⟨_, rfl, i, by omega, here⟩
  | operator _ _ behind => exact ⟨_, rfl, i + 1, by omega, behind⟩
  | emptyWord here _ _ => exact ⟨_, rfl, i, by omega, here⟩
  | nothing here _ _ => exact ⟨_, rfl, i, by omega, here⟩

/-- **A refusal** is about an operator that had been looked at, or about none if every redirect is
sound. -/
theorem operator?_of_ofTokens {error : ParseError} (refused : ofTokens tokens = .error error) :
    (∀ i, SoundAt tokens i) ∧ error.cause.operator? = none
      ∨ ∃ spelling, error.cause.operator? = some spelling
        ∧ ∃ j < error.position, tokens[j]? = some (.operator spelling) := by
  by_cases sound : ∀ i, SoundAt tokens i
  · obtain ⟨-, failed⟩ | ⟨command, h, -⟩ := ofTokens_of_sound sound
    · rw [failed] at refused
      cases refused
      exact .inl ⟨sound, rfl⟩
    · rw [h] at refused
      cases refused
  · obtain ⟨i, unsound⟩ := not_forall.mp sound
    obtain ⟨i, cause, looked, before, defective⟩ := exists_leftmost unsound
    rw [ofTokens_of_defectAt defective before] at refused
    cases refused
    exact .inr defective.exists_operator?

/-- Soundness before a place does not depend on what stands behind it. -/
theorem sound_of_agree (same : ∀ k ≤ i, others[k]? = tokens[k]?)
    (sound : ∀ j < i, SoundAt tokens j) : ∀ j < i, SoundAt others j := fun j lt =>
  (sound j lt).congr (same j (by omega)) (same (j + 1) lt)

/-- **A run of tokens is a command** just when every redirect in it is sound and some word with
characters is no target; its words are then these words, and its redirects the pairs of an operator
and the word behind it, all in order.  Otherwise it is refused: at its leftmost defect, in which the
tokens behind have no part, or at its end if there is no defect. -/
theorem ofTokens_leftmost (tokens : List Token) :
    (∀ command, ofTokens tokens = .ok command ↔ (∀ i, SoundAt tokens i)
        ∧ command.argv = freeTexts tokens
        ∧ List.Forall₂ Redirect.IsSpelledBy command.redirects (pairs tokens))
      ∧ ((∃ command, ofTokens tokens = .ok command) ↔
        (∀ i, SoundAt tokens i) ∧ freeTexts tokens ≠ [])
      ∧ ((∃ i, ¬ SoundAt tokens i) →
        ∃ i cause looked, (∀ j < i, SoundAt tokens j) ∧ DefectAt tokens i cause looked)
      ∧ (∀ i cause looked, (∀ j < i, SoundAt tokens j) → DefectAt tokens i cause looked →
        ofTokens tokens = .error ⟨cause, i + looked⟩
        ∧ (∀ others : List Token, (∀ k ≤ i + 1, others[k]? = tokens[k]?) →
          ofTokens others = ofTokens tokens)
        ∧ (∀ spelling, cause = .unknownOperator spelling →
          ∀ others : List Token, (∀ k ≤ i, others[k]? = tokens[k]?) →
            ofTokens others = ofTokens tokens))
      ∧ ((∀ i, SoundAt tokens i) → freeTexts tokens = [] →
        ofTokens tokens = .error ⟨.noCommand, tokens.length⟩) := by
  refine ⟨fun command => ofTokens_eq_ok_iff, exists_ofTokens_iff,
    fun ⟨i, unsound⟩ => exists_leftmost unsound, ?_, ?_⟩
  · intro i cause looked sound defective
    have refused := ofTokens_of_defectAt defective sound
    refine ⟨refused, fun others same => ?_, fun spelling unknown others same => ?_⟩
    · have still := defective.congr (same i (by omega)) (same (i + 1) (by omega))
      have before := sound_of_agree (fun k le => same k (by omega)) sound
      rw [refused, ofTokens_of_defectAt still before]
    · -- an unknown operator is a defect whatever comes next
      have still : DefectAt others i cause looked := by
        cases defective with
        | unknown here apart => exact .unknown ((same i (by omega)).trans here) apart
        | operator | emptyWord | nothing => cases unknown
      rw [refused, ofTokens_of_defectAt still (sound_of_agree same sound)]
  · intro sound none
    obtain ⟨-, h⟩ | ⟨command, -, argv, -⟩ := ofTokens_of_sound sound
    · exact h
    · rw [none] at argv
      cases argv

/-- A run that is a command, with words without characters, one that two of its operators spoil, and
one that an unknown operator spoils with whatever follows. -/
theorem ofTokens_leftmost_several :
    let command : List Token := [.word "", .operator "2>>", .word "log", .word "ls", .word "",
      .operator "<", .word "in", .word "-l"]
    let crowded : List Token := [.word "", .operator ">", .operator "3>", .word "x", .operator "<"]
    let unknown : List Token := [.word "ls", .operator "3>"]
    (∀ i, SoundAt command i)
      ∧ freeTexts command = ["ls", "-l"] ∧ pairs command = [("2>>", "log"), ("<", "in")]
      ∧ (∀ j < 1, SoundAt crowded j) ∧ DefectAt crowded 1 (.operatorAsTarget "3>") 2
      ∧ ofTokens crowded = .error ⟨.operatorAsTarget "3>", 3⟩
      ∧ (∀ rest, ofTokens (unknown ++ rest) = .error ⟨.unknownOperator "3>", 2⟩) := by
  intro command crowded unknown
  have sound : ∀ i, SoundAt command i :=
    (((ofTokens_leftmost command).1 ⟨⟨"ls", by decide⟩, [⟨"-l", by decide⟩],
      [⟨.errorAppend, ⟨"log", by decide⟩⟩, ⟨.input, ⟨"in", by decide⟩⟩]⟩).mp (by decide)).1
  have before : ∀ tokens : List Token, tokens[0]? = some (.word "") ∨ tokens[0]? = some (.word "ls")
      → ∀ j < 1, SoundAt tokens j := by
    intro tokens word j lt spelling here
    obtain rfl : j = 0 := by omega
    rw [here] at word
    simp at word
  have second : DefectAt crowded 1 (.operatorAsTarget "3>") 2 :=
    @DefectAt.operator crowded 1 ">" "3>" rfl (by decide) rfl
  have last : DefectAt unknown 1 (.unknownOperator "3>") 1 := .unknown rfl (by decide)
  obtain ⟨refused, -⟩ := (ofTokens_leftmost crowded).2.2.2.1 1 _ _ (before _ (.inl rfl)) second
  obtain ⟨refused', -, whatever⟩ :=
    (ofTokens_leftmost unknown).2.2.2.1 1 _ _ (before _ (.inr rfl)) last
  refine ⟨sound, by decide, by decide, before _ (.inl rfl), second, refused, fun rest => ?_⟩
  rw [← refused']
  exact whatever "3>" rfl _ fun k le => List.getElem?_append_left (by simp [unknown]; omega)

end Command

end Shell
