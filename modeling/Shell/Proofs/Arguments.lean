import Shell.Builtins

/-!
# Builtins — the arguments that they take

Which arguments a builtin works on, said without the reader of arguments.

* `Text.integer_eq_ok_iff`: a whole number is spelled by its decimal digits behind at most one sign
  (`Text.Numeral`).
* `Builtin.read_exitUsage_iff`: `exit` takes at most one code, and a double dash before or behind it
  (`Builtin.ExitArguments`).
* `Usage.read_of_greedy`: where one positional argument takes all, everything from the first
  argument on is taken as it stands, if that one is neither an option nor asks for help.
-/

namespace Shell

/-! ### Whole numbers -/

namespace Text

/-- The number that decimal digits spell behind what was read before. -/
def decimalFrom (read : Nat) (text : List Char) : Nat :=
  text.foldl (fun n c => 10 * n + (c.toNat - '0'.toNat)) read

/-- The texts that spell a whole number: decimal digits, behind at most one sign. -/
inductive Numeral : List Char → Int → Prop where
  | unsigned {text : List Char} (nonempty : text ≠ []) (digits : ∀ c ∈ text, c.isDigit) :
      Numeral text (decimalFrom 0 text)
  | plus {text : List Char} (nonempty : text ≠ []) (digits : ∀ c ∈ text, c.isDigit) :
      Numeral ('+' :: text) (decimalFrom 0 text)
  | minus {text : List Char} (nonempty : text ≠ []) (digits : ∀ c ∈ text, c.isDigit) :
      Numeral ('-' :: text) (-decimalFrom 0 text)

theorem le_decimalFrom (read : Nat) (text : List Char) : read ≤ decimalFrom read text := by
  induction text generalizing read with
  | nil => exact Nat.le_refl _
  | cons c rest ih =>
      have more := ih (10 * read + (c.toNat - '0'.toNat))
      simp only [decimalFrom, List.foldl_cons] at more ⊢
      omega

/-- **Digits** are read up to a limit. -/
theorem digits_eq_ok_iff {limit read n : Nat} (beyond : IntegerError) (h : read ≤ limit)
    (text : List Char) :
    digits limit beyond read text = .ok n
      ↔ (∀ c ∈ text, c.isDigit) ∧ decimalFrom read text = n ∧ n ≤ limit := by
  induction text generalizing read with
  | nil =>
      simp only [digits, Except.ok.injEq, List.not_mem_nil, false_implies, implies_true, true_and,
        decimalFrom, List.foldl_nil]
      exact ⟨fun e => ⟨e, e ▸ h⟩, fun e => e.1⟩
  | cons c rest ih =>
      by_cases digit : c.isDigit
      · simp only [digits, digit, Bool.not_true, Bool.false_eq_true, if_false, List.mem_cons,
          forall_eq_or_imp, true_and]
        by_cases large : limit < 10 * read + (c.toNat - '0'.toNat)
        · have more := le_decimalFrom (10 * read + (c.toNat - '0'.toNat)) rest
          simp only [large, if_true, reduceCtorEq, false_iff]
          rintro ⟨-, rfl, within⟩
          simp only [decimalFrom, List.foldl_cons] at more within
          omega
        · simp only [large, if_false]
          exact ih (Nat.le_of_not_lt large)
      · simp [digits, digit]

theorem digits_map_eq_ok_iff {limit : Nat} {f : Nat → Int} {n : Int} (beyond : IntegerError)
    (text : List Char) :
    (digits limit beyond 0 text).map f = .ok n
      ↔ (∀ c ∈ text, c.isDigit) ∧ f (decimalFrom 0 text) = n ∧ decimalFrom 0 text ≤ limit := by
  constructor
  · intro h
    cases e : digits limit beyond 0 text with
    | error cause => simp [e, Except.map] at h
    | ok m =>
        obtain ⟨all, rfl, within⟩ := (digits_eq_ok_iff beyond (Nat.zero_le _) text).mp e
        rw [e] at h
        exact ⟨all, Except.ok.inj h, within⟩
  · rintro ⟨all, rfl, within⟩
    rw [(digits_eq_ok_iff beyond (Nat.zero_le _) text).mpr ⟨all, rfl, within⟩]
    rfl

theorem numeral_minus_iff {text : List Char} {n : Int} :
    Numeral ('-' :: text) n ↔ text ≠ [] ∧ (∀ c ∈ text, c.isDigit) ∧ -(decimalFrom 0 text) = n := by
  constructor
  · intro h
    cases h with
    | unsigned _ digits => exact absurd (digits '-' (List.mem_cons_self ..)) (by decide)
    | minus nonempty digits => exact ⟨nonempty, digits, rfl⟩
  · rintro ⟨nonempty, digits, rfl⟩
    exact .minus nonempty digits

theorem numeral_plus_iff {text : List Char} {n : Int} :
    Numeral ('+' :: text) n ↔ text ≠ [] ∧ (∀ c ∈ text, c.isDigit) ∧ decimalFrom 0 text = n := by
  constructor
  · intro h
    cases h with
    | unsigned _ digits => exact absurd (digits '+' (List.mem_cons_self ..)) (by decide)
    | plus nonempty digits => exact ⟨nonempty, digits, rfl⟩
  · rintro ⟨nonempty, digits, rfl⟩
    exact .plus nonempty digits

theorem numeral_unsigned_iff {text : List Char} {n : Int} (plus : text.head? ≠ some '+')
    (minus : text.head? ≠ some '-') :
    Numeral text n ↔ text ≠ [] ∧ (∀ c ∈ text, c.isDigit) ∧ decimalFrom 0 text = n := by
  constructor
  · intro h
    cases h with
    | unsigned nonempty digits => exact ⟨nonempty, digits, rfl⟩
    | plus => exact absurd rfl plus
    | minus => exact absurd rfl minus
  · rintro ⟨nonempty, digits, rfl⟩
    exact .unsigned nonempty digits

/-- A text that spells a whole number of 32 bits. -/
def Spells (text : String) (n : Int) : Prop :=
  Numeral text.toList n ∧ -2147483648 ≤ n ∧ n < 2147483648

/-- **A whole number of 32 bits** is read from a numeral of this size, and from nothing else. -/
theorem integer_eq_ok_iff {text : String} {n : Int} : integer text = .ok n ↔ Spells text n := by
  -- with a sign or without one, a number that is not negative stays below the same bound
  have upward : ∀ {rest : List Char}, rest ≠ [] →
      ((digits (integerBound - 1) .tooLarge 0 rest).map (fun m : Nat => (m : Int)) = .ok n
        ↔ (rest ≠ [] ∧ (∀ c ∈ rest, c.isDigit) ∧ decimalFrom 0 rest = n)
          ∧ -2147483648 ≤ n ∧ n < 2147483648) := by
    intro rest nonempty
    rw [digits_map_eq_ok_iff, integerBound]
    constructor
    · rintro ⟨digits, rfl, within⟩
      exact ⟨⟨nonempty, digits, rfl⟩, by omega, by omega⟩
    · rintro ⟨⟨-, digits, rfl⟩, -, within⟩
      exact ⟨digits, rfl, by omega⟩
  unfold integer Spells
  split
  case h_1 e =>
    rw [e, numeral_unsigned_iff (by simp) (by simp)]
    simp
  case h_2 e => simp [e, numeral_plus_iff]
  case h_3 e => simp [e, numeral_minus_iff]
  case h_4 rest other e =>
    rw [e, digits_map_eq_ok_iff, numeral_minus_iff, integerBound]
    constructor
    · rintro ⟨digits, rfl, within⟩
      exact ⟨⟨fun none => other none, digits, rfl⟩, by omega, by omega⟩
    · rintro ⟨⟨-, digits, rfl⟩, within, -⟩
      exact ⟨digits, rfl, by omega⟩
  case h_5 rest other e =>
    rw [e, numeral_plus_iff, upward fun none => other none]
  case h_6 other _ _ minus plus =>
    have apart : ∀ c, (∀ rest, text.toList = c :: rest → False) → text.toList.head? ≠ some c := by
      intro c never start
      obtain ⟨rest, e⟩ := List.head?_eq_some_iff.mp start
      exact never rest e
    rw [numeral_unsigned_iff (apart _ plus) (apart _ minus), upward fun none => other none]

end Text

/-! ### One positional argument -/

namespace Usage

variable {α : Type} {usage : Usage α} {rule : PositionalRule α} {add : String → α → α}

theorem ne_end_of_undashed {text : String} (plain : isDashed text = false) : text ≠ "--" := by
  rintro rfl
  cases plain

/-- Of the texts without a dash only one asks for help. -/
theorem asksHelp_of_undashed {text : String} (plain : isDashed text = false)
    (other : text ≠ "help") : asksHelp text = false := by
  have page : text ≠ "--help" := by
    rintro rfl
    cases plain
  simp [asksHelp, page, other]

/-- Once the options have ended, an argument that takes all takes every text, for nothing if help
was asked for. -/
theorem readFrom_greedy (greedy : rule.greedy = true)
    (stores : ∀ text value, rule.store text value = .ok (add text value)) (helpAsked : Bool)
    (value : α) (texts : List String) :
    usage.readFrom [rule] true helpAsked value texts
      = if helpAsked then .error .help
        else .ok (texts.foldl (fun value text => add text value) value) := by
  induction texts generalizing value with
  | nil => rfl
  | cons text rest ih =>
      simp only [readFrom, Bool.not_true, Bool.false_and, Bool.false_eq_true, if_false, stores,
        greedy, if_true, ih, List.foldl_cons]

/-- **Where one argument takes all**, everything from the first argument on is taken as it stands,
unless the first one is an option or asks for help. -/
theorem read_of_greedy (only : usage.positionals = [rule]) (greedy : rule.greedy = true)
    (stores : ∀ text value, rule.store text value = .ok (add text value)) {texts : List String}
    (plain : ∀ first, texts.head? = some first → isDashed first = false ∧ first ≠ "help")
    (value : α) :
    usage.read value texts = .ok (texts.foldl (fun value text => add text value) value) := by
  cases texts with
  | nil => rfl
  | cons first rest =>
      obtain ⟨plain, help⟩ := plain first rfl
      simp only [read, only, readFrom, asksHelp_of_undashed plain help, ne_end_of_undashed plain,
        plain, Bool.and_false, decide_false, Bool.false_eq_true, if_false, stores, greedy, if_true,
        readFrom_greedy greedy stores, List.foldl_cons]

/-- Once help was asked for, the page is the answer to any arguments that are no options. -/
theorem readFrom_of_undashed (greedy : rule.greedy = true)
    (stores : ∀ text value, rule.store text value = .ok (add text value)) {texts : List String}
    (undashed : ∀ text ∈ texts, isDashed text = false) (value : α) :
    usage.readFrom [rule] false true value texts = .error .help := by
  induction texts with
  | nil => rfl
  | cons text rest ih =>
      have ih := ih fun other mem => undashed other (List.mem_cons_of_mem _ mem)
      have plain := undashed text (List.mem_cons_self ..)
      by_cases help : asksHelp text
      · simp only [readFrom, help, Bool.not_false, Bool.and_self, if_true, ih]
      · simp only [readFrom, help, ne_end_of_undashed plain, plain, Bool.and_false, decide_false,
          Bool.false_eq_true, if_false, stores, greedy, if_true, readFrom_greedy greedy stores]

/-- **The word `help`** in front of such arguments asks for the page. -/
theorem read_of_help (only : usage.positionals = [rule]) (greedy : rule.greedy = true)
    (stores : ∀ text value, rule.store text value = .ok (add text value)) {rest : List String}
    (undashed : ∀ text ∈ rest, isDashed text = false) (value : α) :
    usage.read value ("help" :: rest) = .error .help := by
  have help : asksHelp "help" = true := rfl
  simp only [read, only, readFrom, help, Bool.not_false, Bool.and_self, if_true,
    readFrom_of_undashed greedy stores undashed]

/-- A request for help is never answered with a value. -/
theorem readFrom_of_helpAsked (positionals : List (PositionalRule α)) (optionsEnded : Bool)
    (value read : α) (texts : List String) :
    usage.readFrom positionals optionsEnded true value texts ≠ .ok read := by
  induction texts generalizing positionals optionsEnded value with
  | nil => simp [readFrom]
  | cons text rest ih =>
      unfold readFrom
      split
      · exact ih _ _ _
      split
      · exact ih _ _ _
      split
      · simp
      split
      · simp
      split
      · simp
      split
      · exact ih _ _ _
      · exact ih _ _ _

/-- Without options, and with no argument left to take, only the end of the options may follow. -/
theorem readFrom_end (optionless : usage.options = []) {optionsEnded : Bool} {value read : α}
    {texts : List String} :
    usage.readFrom [] optionsEnded false value texts = .ok read
      ↔ read = value ∧ (texts = [] ∨ optionsEnded = false ∧ texts = ["--"]) := by
  constructor
  · intro h
    cases texts with
    | nil => exact ⟨(Except.ok.inj h).symm, .inl rfl⟩
    | cons text rest =>
        rw [readFrom] at h
        split at h
        · exact (readFrom_of_helpAsked _ _ _ _ _ h).elim
        split at h
        · rename_i ends
          simp only [Bool.and_eq_true, Bool.not_eq_true', decide_eq_true_eq] at ends
          obtain ⟨open', rfl⟩ := ends
          cases rest with
          | nil => exact ⟨(Except.ok.inj h).symm, .inr ⟨open', rfl⟩⟩
          | cons next rest => simp [readFrom] at h
        split at h
        · simp [optionless] at h
        · cases h
  · rintro ⟨rfl, rfl | ⟨rfl, rfl⟩⟩
    · rfl
    · simp [readFrom, asksHelp]

end Usage

/-! ### `exit` -/

namespace Builtin

/-- The arguments that `exit` takes, and the code that they give. -/
inductive ExitArguments : List String → Option ExitCode → Prop where
  | none : ExitArguments [] none
  | ended : ExitArguments ["--"] none
  | code {text : String} {code : ExitCode} (plain : Usage.isDashed text = false)
      (spelled : Text.Spells text code) : ExitArguments [text] (some code)
  | codeEnded {text : String} {code : ExitCode} (plain : Usage.isDashed text = false)
      (spelled : Text.Spells text code) : ExitArguments [text, "--"] (some code)
  /-- Behind the double dash a code may be negative. -/
  | endedCode {text : String} {code : ExitCode} (spelled : Text.Spells text code) :
      ExitArguments ["--", text] (some code)

/-- A code does not ask for help. -/
theorem asksHelp_of_spells {text : String} {code : ExitCode} (spelled : Text.Spells text code) :
    Usage.asksHelp text = false := by
  have unspelled : ∀ word, Usage.asksHelp word = true → Text.integer word = .error .badDigit := by
    intro word asks
    simp only [Usage.asksHelp, Bool.or_eq_true, decide_eq_true_eq] at asks
    rcases asks with rfl | rfl <;> rfl
  rw [Bool.eq_false_iff]
  intro asks
  rw [← Text.integer_eq_ok_iff, unspelled text asks] at spelled
  cases spelled

/-- What is left of the arguments once the first one was taken as the code. -/
theorem readFrom_code {text : String} {code : ExitCode} (spelled : Text.Spells text code)
    (optionsEnded : Bool) (plain : optionsEnded = false → Usage.isDashed text = false)
    (rest : List String) :
    exitUsage.readFrom exitUsage.positionals optionsEnded false none (text :: rest)
      = exitUsage.readFrom [] optionsEnded false (some code) rest := by
  rw [← Text.integer_eq_ok_iff] at spelled
  cases optionsEnded with
  | false =>
      have asks := asksHelp_of_spells (Text.integer_eq_ok_iff.mp spelled)
      have noEnd := Usage.ne_end_of_undashed (plain rfl)
      simp [Usage.readFrom, exitUsage, asks, noEnd, plain rfl, spelled]
  | true => simp [Usage.readFrom, exitUsage, spelled]

theorem exists_code_of_readFrom {text : String} {rest : List String} {optionsEnded : Bool}
    {given : Option ExitCode}
    (h : exitUsage.readFrom exitUsage.positionals optionsEnded false none (text :: rest)
      = .ok given) (noEnd : optionsEnded = false → text ≠ "--") :
    (optionsEnded = false → Usage.isDashed text = false)
      ∧ ∃ code, Text.Spells text code ∧ given = some code
        ∧ (rest = [] ∨ optionsEnded = false ∧ rest = ["--"]) := by
  unfold Usage.readFrom at h
  split at h
  · exact (Usage.readFrom_of_helpAsked _ _ _ _ _ h).elim
  split at h
  · rename_i ends
    simp only [Bool.and_eq_true, Bool.not_eq_true', decide_eq_true_eq] at ends
    exact absurd ends.2 (noEnd ends.1)
  split at h
  · cases h
  · rename_i plain
    cases e : Text.integer text with
    | error cause => simp [exitUsage, e] at h
    | ok code =>
        simp only [exitUsage, e, Bool.false_eq_true, if_false] at h
        obtain ⟨rfl, left⟩ := (Usage.readFrom_end rfl).mp h
        refine ⟨fun opened => ?_, code, Text.integer_eq_ok_iff.mp e, rfl, left⟩
        simpa [opened] using plain

/-- **`exit`** takes its arguments as `ExitArguments` says. -/
theorem read_exitUsage_iff {texts : List String} {given : Option ExitCode} :
    exitUsage.read none texts = .ok given ↔ ExitArguments texts given := by
  constructor
  · intro h
    cases texts with
    | nil =>
        cases h
        exact .none
    | cons text rest =>
        by_cases ends : text = "--"
        · subst ends
          cases rest with
          | nil =>
              cases h
              exact .ended
          | cons next rest =>
              have behind : exitUsage.readFrom exitUsage.positionals true false none (next :: rest)
                  = .ok given := h
              obtain ⟨-, code, spelled, rfl, left⟩ := exists_code_of_readFrom behind (by simp)
              obtain rfl : rest = [] := by simpa using left
              exact .endedCode spelled
        · obtain ⟨plain, code, spelled, rfl, left⟩ := exists_code_of_readFrom h fun _ => ends
          rcases left with rfl | ⟨-, rfl⟩
          · exact .code (plain rfl) spelled
          · exact .codeEnded (plain rfl) spelled
  · intro h
    cases h with
    | none => rfl
    | ended => rfl
    | code plain spelled => exact readFrom_code spelled false (fun _ => plain) []
    | codeEnded plain spelled => exact readFrom_code spelled false (fun _ => plain) ["--"]
    | endedCode spelled => exact readFrom_code spelled true (by simp) []

end Builtin

end Shell
