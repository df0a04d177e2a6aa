import Shell.Proofs.Writing

/-!
# Tokens — reading what was written

* `Scan.close_run_of_writing`: reading what was written gives the tokens back, from any place
  between two tokens.
* `tokenize_of_writing`: reading a whole line does.

The scanner has a single state for each place between two tokens (`Scan.behind`): the token before
is finished when a space follows, and just as well when a token follows that may touch it.
-/

namespace Shell

/-! ### Spellings -/

namespace RedirectKind

theorem isSpelling_iff {text : String} : isSpelling text ↔ text ∈ Token.operators := by
  rw [isSpelling, Option.isSome_iff_exists]
  constructor
  · rintro ⟨kind, h⟩
    have known : ∀ k ∈ all, ∀ s ∈ k.spellings, s ∈ Token.operators := by decide
    exact known kind (mem_all kind) text (ofSpelling?_eq_some_iff.mp h)
  · have kinds : ∀ s ∈ Token.operators, ∃ k ∈ all, s ∈ k.spellings := by decide
    intro h
    obtain ⟨kind, -, hk⟩ := kinds text h
    exact ⟨kind, ofSpelling?_of_mem hk⟩

theorem ofSpelling?_eq_none_iff {text : String} :
    ofSpelling? text = none ↔ text ∉ Token.operators := by
  rw [← isSpelling_iff, isSpelling, Option.not_isSome_iff_eq_none]

theorem ne_empty_of_mem_operators {text : String} (h : text ∈ Token.operators) : text ≠ "" := by
  rintro rfl
  exact absurd h (by decide)

/-- An operator goes on with `>` only; `<` is an operator by itself. -/
theorem eq_of_isSpelling_push {text : String} {c : Char} (h : isSpelling (text.push c)) :
    c = '>' ∨ c = '<' ∧ text = "" := by
  have ends : ∀ s ∈ Token.operators, s.toList.getLast? = some '>' ∨ s.toList = ['<'] := by decide
  rcases ends _ (isSpelling_iff.mp h) with e | e
  · left
    simpa using e
  · right
    rw [String.toList_push, ← List.nil_append ['<']] at e
    obtain ⟨e₁, e₂⟩ := List.append_inj' e rfl
    exact ⟨(List.cons.inj e₂).1, String.toList_eq_nil_iff.mp e₁⟩

end RedirectKind

namespace Scan

/-! ### A piece, a word, an operator -/

theorem plain_of_not_isSpecial {c : Char} (h : Segment.isSpecial c = false) (s : Scan) :
    s.plain c = (s.push c).enter .plain := by
  simp only [Segment.isSpecial, Bool.or_eq_false_iff, decide_eq_false_iff_not] at h
  obtain ⟨⟨⟨⟨⟨h₁, h₂⟩, h₃⟩, h₄⟩, h₅⟩, h₆⟩ := h
  unfold plain
  split <;> first | contradiction | rfl

theorem enter_enter (s : Scan) (m n : Mode) : (s.enter m).enter n = s.enter n := rfl

theorem push_enter (s : Scan) (m : Mode) (c : Char) : (s.enter m).push c = (s.push c).enter m := rfl

theorem finish_enter (s : Scan) (m : Mode) (make : String → Token) :
    (s.enter m).finish make = (s.finish make).enter m := by
  by_cases h : s.pending = "" <;> simp [finish, enter, h]

/-- Reading a character of plain text forgets the mode before it. -/
theorem plain_enter (s : Scan) (m : Mode) (c : Char) : (s.enter m).plain c = s.plain c := by
  unfold plain
  split
  case h_6 =>
    rw [finish_enter, show (s.enter m).pending = s.pending from rfl]
    split <;> rfl
  all_goals simp only [finish_enter, push_enter, enter_enter]

theorem push_append_ofList (p : String) (c : Char) (text : List Char) :
    p.push c ++ String.ofList text = p ++ String.ofList (c :: text) := by
  simp [← String.toList_inj]

theorem run_bare {text : List Char} (h : ∀ c ∈ text, Segment.isSpecial c = false) (p : String)
    (ts : Array Token) :
    run ⟨.plain, p, ts⟩ text = ⟨.plain, p ++ String.ofList text, ts⟩ := by
  induction text generalizing p with
  | nil => simp
  | cons c text ih =>
      have hc : step ⟨.plain, p, ts⟩ c = ⟨.plain, p.push c, ts⟩ :=
        plain_of_not_isSpecial (h c (by simp)) _
      rw [run_cons, hc, ih fun d hd => h d (by simp [hd]), push_append_ofList]

theorem run_singleQuoted {text : List Char} (h : '\'' ∉ text) (p : String) (ts : Array Token) :
    run ⟨.singleQuoted, p, ts⟩ text = ⟨.singleQuoted, p ++ String.ofList text, ts⟩ := by
  induction text generalizing p with
  | nil => simp
  | cons c text ih =>
      obtain ⟨hc, ht⟩ := List.ne_and_not_mem_of_not_mem_cons h
      have e : step ⟨.singleQuoted, p, ts⟩ c = ⟨.singleQuoted, p.push c, ts⟩ :=
        if_neg hc.symm
      rw [run_cons, e, ih ht, push_append_ofList]

/-- A character between double quotes, written with a backslash or without. -/
theorem run_quotedChar {x : Char × Bool} (h : Segment.admits x) (p : String) (ts : Array Token) :
    run ⟨.doubleQuoted, p, ts⟩ (Segment.quotedChar x) = ⟨.doubleQuoted, p.push x.1, ts⟩ := by
  match x, h with
  | (c, true), h =>
      have escapable : isDoubleEscapable c := by
        simpa [Segment.admits, isDoubleEscapable, or_assoc] using h
      simp [Segment.quotedChar, step, enter, push, escapable]
  | (c, false), h =>
      simp only [Segment.admits, Bool.and_eq_true, decide_eq_true_eq] at h
      simp [Segment.quotedChar, step, push, h.1, h.2]

theorem run_doubleQuoted {text : List (Char × Bool)} (h : ∀ x ∈ text, Segment.admits x) (p : String)
    (ts : Array Token) :
    run ⟨.doubleQuoted, p, ts⟩ (text.flatMap Segment.quotedChar)
      = ⟨.doubleQuoted, p ++ String.ofList (text.map Prod.fst), ts⟩ := by
  induction text generalizing p with
  | nil => simp
  | cons x text ih =>
      rw [List.flatMap_cons, run_append, run_quotedChar (h x (by simp)),
        ih fun y hy => h y (by simp [hy]), push_append_ofList, List.map_cons]

/-- Reading a piece adds its characters to the word that is being read. -/
theorem run_segment {segment : Segment} (h : segment.fits) (p : String) (ts : Array Token) :
    run ⟨.plain, p, ts⟩ segment.written = ⟨.plain, p ++ String.ofList segment.text, ts⟩ := by
  cases segment with
  | bare text =>
      refine run_bare (fun c hc => ?_) p ts
      simpa using List.all_eq_true.mp h c hc
  | escaped c => simp [Segment.written, Segment.text, step, plain, enter, push]
  | singleQuoted text =>
      have hq : '\'' ∉ text := by simpa [Segment.fits] using h
      have opened : step ⟨.plain, p, ts⟩ '\'' = ⟨.singleQuoted, p, ts⟩ := rfl
      rw [Segment.written, List.cons_append, run_cons, opened, run_append, run_singleQuoted hq]
      rfl
  | doubleQuoted text =>
      have hq : ∀ x ∈ text, Segment.admits x := List.all_eq_true.mp h
      have opened : step ⟨.plain, p, ts⟩ '"' = ⟨.doubleQuoted, p, ts⟩ := rfl
      rw [Segment.written, List.cons_append, run_cons, opened, run_append, run_doubleQuoted hq]
      rfl

theorem run_segments {segments : List Segment} (h : ∀ s ∈ segments, s.fits) (p : String)
    (ts : Array Token) :
    run ⟨.plain, p, ts⟩ (segments.flatMap Segment.written)
      = ⟨.plain, p ++ String.ofList (segments.flatMap Segment.text), ts⟩ := by
  induction segments generalizing p with
  | nil => simp
  | cons s segments ih =>
      rw [List.flatMap_cons, run_append, run_segment (h s (by simp)),
        ih fun t ht => h t (by simp [ht]), List.flatMap_cons, String.ofList_append,
        String.append_assoc]

/-! ### Between two tokens -/

/-- The scanner right behind a token, with the tokens that were finished before it. -/
def behind (done : Array Token) : Option Token → Scan
  | none => { tokens := done }
  | some (.word text) => { pending := text, tokens := done }
  | some (.operator spelling) =>
      if spelling = "<" then { tokens := done.push (.operator spelling) }
      else { mode := .operator, pending := spelling, tokens := done }

theorem run_of_writtenAs {token : Token} {text : List Char} (h : token.WrittenAs text)
    (done : Array Token) : (behind done none).run text = behind done (some token) := by
  cases h with
  | word fits _ => simpa [behind] using run_segments fits "" done
  | @operator spelling known =>
      have spells := RedirectKind.isSpelling_iff.mpr known
      simp only [Token.operators, List.mem_cons, List.not_mem_nil, or_false] at known
      rcases known with rfl | rfl | rfl | rfl | rfl | rfl | rfl | rfl | rfl <;>
        simp [behind, step, plain, joinsOperator, push, enter, finish,
          RedirectKind.isDescriptorMark, spells]

/-- Where the line ends behind a token, that token is the last one. -/
theorem close_behind {token : Token} (h : token.IsProper) (done : Array Token) :
    (behind done (some token)).close = done.toList ++ [token] := by
  cases token with
  | word text => simp [behind, close, finish, show text ≠ "" from h]
  | operator spelling =>
      by_cases e : spelling = "<"
      · simp [behind, close, finish, e]
      · simp [behind, close, finish, e, RedirectKind.ne_empty_of_mem_operators h]

/-- A character that the operator before it cannot take up is read as if the operator had been
finished. -/
theorem step_behind_operator {spelling : String} {c : Char} (known : spelling ∈ Token.operators)
    (h : c = '>' → spelling = "<" ∨ RedirectKind.isSpelling (spelling.push '>') = false)
    (done : Array Token) :
    (behind done (some (.operator spelling))).step c
      = (behind (done.push (.operator spelling)) none).step c := by
  by_cases e : spelling = "<"
  · simp [behind, e]
  -- the operator is still being read, and goes no further
  · have ne := RedirectKind.ne_empty_of_mem_operators known
    have stops : RedirectKind.isSpelling (spelling.push c) = false := by
      refine Bool.eq_false_iff.mpr fun grows => ?_
      rcases RedirectKind.eq_of_isSpelling_push grows with rfl | ⟨-, h₀⟩
      · rw [(h rfl).resolve_left e] at grows
        cases grows
      · exact ne h₀
    have stopped : (behind done (some (.operator spelling))).step c
        = ((behind (done.push (.operator spelling)) none).enter .operator).plain c := by
      simp [behind, step, e, stops, finish, ne, enter]
    rw [stopped, plain_enter]
    rfl

/-- A space finishes the token before it. -/
theorem step_behind_space {token : Token} (h : token.IsProper) (done : Array Token) :
    (behind done (some token)).step ' ' = behind (done.push token) none := by
  cases token with
  | word text => simp [behind, step, plain, finish, enter, show text ≠ "" from h]
  | operator spelling =>
      rw [step_behind_operator h fun e => absurd e (by decide)]
      rfl

theorem run_behind_spaces (n : Nat) (done : Array Token) :
    (behind done none).run (List.replicate n ' ') = behind done none := by
  induction n with
  | zero => rfl
  | succ n ih =>
      have e : (behind done none).step ' ' = behind done none := rfl
      rw [List.replicate_succ, run_cons, e, ih]

/-- A written word starts with a character that no operator holds. -/
theorem exists_cons_of_writtenAs {word : String} {text : List Char}
    (h : (Token.word word).WrittenAs text) : ∃ c rest, text = c :: rest ∧ c ≠ '>' := by
  generalize e : Token.word word = token at h
  cases h with
  | operator => cases e
  -- pieces that are empty bare runs are passed over, every other one is written with a character
  | @word segments fits nonempty =>
      clear e
      induction segments with
      | nil => exact absurd rfl nonempty
      | cons s segments ih =>
          have hs : s.fits := fits s (by simp)
          match s with
          | .bare [] => exact ih (fun t ht => fits t (by simp [ht])) nonempty
          | .bare (c :: text) =>
              have hc : Segment.isSpecial c = false := by
                simpa using List.all_eq_true.mp hs c (by simp)
              refine ⟨c, _, rfl, ?_⟩
              rintro rfl
              cases hc
          | .escaped c => exact ⟨_, _, rfl, by decide⟩
          | .singleQuoted text => exact ⟨_, _, rfl, by decide⟩
          | .doubleQuoted text => exact ⟨_, _, rfl, by decide⟩

theorem joinsOperator_eq_false {text : String} (h₀ : text ≠ "") (h₁ : text ≠ "1") (h₂ : text ≠ "2")
    (h₃ : text ≠ "&") : joinsOperator text = false := by
  unfold joinsOperator
  split
  · rename_i e
    exact absurd (String.toList_eq_nil_iff.mp e) h₀
  · rename_i c e
    have e' : text = String.ofList [c] := by rw [← e, String.ofList_toList]
    subst e'
    simp only [RedirectKind.isDescriptorMark, Bool.or_eq_false_iff, decide_eq_false_iff_not]
    exact ⟨⟨fun e => h₁ (e ▸ rfl), fun e => h₂ (e ▸ rfl)⟩, fun e => h₃ (e ▸ rfl)⟩
  · rfl

theorem step_behind_word {before : String} (h₀ : before ≠ "") (h₁ : before ≠ "1")
    (h₂ : before ≠ "2") (h₃ : before ≠ "&") (done : Array Token) :
    (behind done (some (.word before))).step '>'
      = (behind (done.push (.word before)) none).step '>' := by
  have apart : joinsOperator before = false := joinsOperator_eq_false h₀ h₁ h₂ h₃
  have joins : joinsOperator "" = true := rfl
  simp [behind, step, plain, finish, push, enter, apart, joins, h₀]

/-- What an operator can take up of another one that may touch it. -/
theorem not_grows_of_mayTouch {before next : String} {c : Char} {rest : List Char}
    (hb : before ∈ Token.operators) (hn : next ∈ Token.operators)
    (h : (Token.operator before).mayTouch (.operator next)) (e : next.toList = c :: rest)
    (hc : c = '>') : before = "<" ∨ RedirectKind.isSpelling (before.push '>') = false := by
  have single : ∀ s ∈ Token.operators, s.toList.head? = some '>' → s = ">" ∨ s = ">>" := by
    decide
  have full : ∀ s ∈ Token.operators, ['>', '>'].isSuffixOf s.toList →
      RedirectKind.isSpelling (s.push '>') = false := by decide
  have hn' : next = ">" ∨ next = ">>" :=
    single next hn (by rw [e, hc]; rfl)
  simp only [Token.mayTouch, Bool.or_eq_true, Bool.and_eq_true, decide_eq_true_eq] at h
  rcases h with (h | h) | ⟨h₁, h₂⟩
  · exact Or.inl h
  · exact Or.inr (full before hb h)
  · rcases hn' with e' | e'
    · exact absurd e' h₁
    · exact absurd e' h₂

/-- A token that may touch the one before it is read as if that one had been finished. -/
theorem run_behind_of_mayTouch {previous token : Token} {text : List Char} (hp : previous.IsProper)
    (ht : token.WrittenAs text) (h : previous.mayTouch token) (done : Array Token) :
    (behind done (some previous)).run text = (behind (done.push previous) none).run text := by
  cases previous with
  | word before =>
      have hb : before ≠ "" := hp
      cases ht with
      | word => cases h
      | operator =>
          simp only [Token.mayTouch, Bool.or_eq_true, Bool.and_eq_true, decide_eq_true_eq] at h
          rcases h with rfl | ⟨⟨⟨rfl | rfl, h₁⟩, h₂⟩, h₃⟩
          · simp [behind, step, plain, finish, push, enter, hb]
          · exact step_behind_word hb h₁ h₂ h₃ done
          · exact congrArg (step · '>') (step_behind_word hb h₁ h₂ h₃ done)
  | operator before =>
      cases token with
      | word after =>
          obtain ⟨c, rest, rfl, hc⟩ := exists_cons_of_writtenAs ht
          rw [run_cons, run_cons, step_behind_operator hp fun e => absurd e hc]
      | operator next =>
          cases ht with
          | operator known =>
              cases e : next.toList with
              | nil =>
                  exact absurd (String.toList_eq_nil_iff.mp e)
                    (RedirectKind.ne_empty_of_mem_operators known)
              | cons c rest =>
                  rw [run_cons, run_cons,
                    step_behind_operator hp (not_grows_of_mayTouch hp known h e)]

/-! ### A whole line -/

/-- Reading what was written behind a token gives that token and the written ones. -/
theorem close_run_of_writing {before : Option Token} {tokens : List Token} {line : List Char}
    (h : Writing before tokens line) (hb : ∀ previous ∈ before, previous.IsProper)
    (done : Array Token) :
    ((behind done before).run line).close = done.toList ++ before.toList ++ tokens := by
  induction h generalizing done with
  | nil before spaces =>
      cases before with
      | none => rw [run_behind_spaces]; simp [behind, close, finish]
      | some previous =>
          have hp : previous.IsProper := hb previous rfl
          cases spaces with
          | zero => simpa using close_behind hp done
          | succ n =>
              rw [List.replicate_succ, run_cons, step_behind_space hp, run_behind_spaces]
              simp [behind, close, finish]
  | @cons before token tokens text line spaces apart first _ ih =>
      -- whatever stands before the token, it is finished when the token is read
      have started : (behind done before).run (List.replicate spaces ' ' ++ text)
          = behind (done ++ before.toList.toArray) (some token) := by
        cases before with
        | none => rw [run_append, run_behind_spaces, run_of_writtenAs first]; simp
        | some previous =>
            have hp : previous.IsProper := hb previous rfl
            cases spaces with
            | zero =>
                rw [List.replicate_zero, List.nil_append,
                  run_behind_of_mayTouch hp first (apart rfl previous rfl), run_of_writtenAs first]
                simp
            | succ n =>
                rw [List.replicate_succ, List.cons_append, run_cons, step_behind_space hp,
                  run_append, run_behind_spaces, run_of_writtenAs first]
                simp
      rw [run_append, started, ih (fun p e => Option.some.inj e ▸ first.isProper)]
      simp

end Scan

/-- **Reading a line gives back the tokens that it was written from**, whichever way each of them is
written and however many spaces stand around them. -/
theorem tokenize_of_writing {tokens : List Token} {line : String}
    (h : Writing none tokens line.toList) : tokenize line = tokens := by
  calc tokenize line = ((Scan.behind #[] none).run line.toList).close := rfl
    _ = tokens := by simpa using Scan.close_run_of_writing h (by simp) #[]

/-- A word in four kinds of pieces, operators that touch each other and a word that needs a
space. -/
theorem tokenize_of_writing_mixed :
    Writing none [.operator "2>>", .operator "1>", .word "a b\"$", .operator "<", .word "1",
        .operator "&>>", .word "x"] "2>>1> a\\ 'b'\"\\\"$\"<1  &>>x ".toList
      ∧ tokenize "2>>1> a\\ 'b'\"\\\"$\"<1  &>>x "
        = [.operator "2>>", .operator "1>", .word "a b\"$", .operator "<", .word "1",
          .operator "&>>", .word "x"] := by
  have h : Writing none [.operator "2>>", .operator "1>", .word "a b\"$", .operator "<", .word "1",
      .operator "&>>", .word "x"] "2>>1> a\\ 'b'\"\\\"$\"<1  &>>x ".toList :=
    .cons 0 (by simp) (.operator (by decide)) <|
    .cons 0 (by decide) (.operator (by decide)) <|
    .cons 1 (by simp) (@Token.WrittenAs.word [.bare ['a'], .escaped ' ', .singleQuoted ['b'],
      .doubleQuoted [('"', true), ('$', false)]] (by decide) (by decide)) <|
    .cons 0 (by decide) (.operator (by decide)) <|
    .cons 0 (by decide) (@Token.WrittenAs.word [.bare ['1']] (by decide) (by decide)) <|
    .cons 2 (by simp) (.operator (by decide)) <|
    .cons 0 (by decide) (@Token.WrittenAs.word [.bare ['x']] (by decide) (by decide)) <|
    .nil _ 1
  exact ⟨h, tokenize_of_writing h⟩

end Shell
