import Shell.Interactive

/-!
# Interactive sessions — lines of an input

A text is cut into physical lines (`InputLine.physical`), and these are joined into logical ones
(`InputLine.join`), a line that ends in a backslash with the one behind it.  The byte of a newline
is part of no other character (`Bytes.eq_of_newline_mem`), so a text may be cut before or after it
is written down (`InputLine.exists_splitLine_of_pieces`).
-/

namespace Shell

/-! ### Cutting bytes -/

namespace Bytes

variable {a : Bytes}

theorem splitLine_append_of_mem (h : newline ∈ a) (b : Bytes) :
    splitLine (a ++ b) = ((splitLine a).1, (splitLine a).2 ++ b) := by
  induction a with
  | nil => cases h
  | cons byte rest ih =>
      by_cases ends : byte = newline
      · simp [splitLine, ends]
      · have later : newline ∈ rest := (List.mem_cons.mp h).resolve_left (Ne.symm ends)
        simp [splitLine, ends, ih later]

theorem splitLine_append_of_not_mem (h : newline ∉ a) (b : Bytes) :
    splitLine (a ++ b) = (a ++ (splitLine b).1, (splitLine b).2) := by
  induction a with
  | nil => rfl
  | cons byte rest ih =>
      have ends : byte ≠ newline := fun e => h (e ▸ List.mem_cons_self)
      have later : newline ∉ rest := fun mem => h (List.mem_cons_of_mem _ mem)
      simp [splitLine, ends, ih later]

theorem splitLine_of_not_mem (h : newline ∉ a) : splitLine a = (a, []) := by
  simpa [splitLine] using splitLine_append_of_not_mem h []

theorem getLast?_splitLine_of_mem (h : newline ∈ a) :
    (splitLine a).1.getLast? = some newline := by
  induction a with
  | nil => cases h
  | cons byte rest ih =>
      by_cases ends : byte = newline
      · simp [splitLine, ends]
      · have later : newline ∈ rest := (List.mem_cons.mp h).resolve_left (Ne.symm ends)
        simp [splitLine, ends, ih later, List.getLast?_cons]

/-- Only a newline has its byte. -/
theorem eq_of_newline_mem {c : Char} (h : newline ∈ String.utf8EncodeChar c) : c = '\n' := by
  have byte : ∀ n, newline = UInt8.ofNat n → n % 256 = 10 := by
    intro n e
    simpa [newline] using (congrArg UInt8.toNat e).symm
  have code : c.val.toNat = 10 := by
    simp only [String.utf8EncodeChar] at h
    split at h
    · have := byte _ (List.mem_singleton.mp h)
      omega
    · -- a byte of a longer form is at least 128
      split at h
      · simp only [List.mem_cons, List.not_mem_nil, or_false] at h
        rcases h with h | h <;> have := byte _ h <;> omega
      · split at h
        · simp only [List.mem_cons, List.not_mem_nil, or_false] at h
          rcases h with h | h | h <;> have := byte _ h <;> omega
        · simp only [List.mem_cons, List.not_mem_nil, or_false] at h
          rcases h with h | h | h | h <;> have := byte _ h <;> omega
  exact Char.ext (UInt32.toNat_inj.mp code)

theorem ofText_ofList_cons (c : Char) (text : List Char) :
    ofText (String.ofList (c :: text))
      = String.utf8EncodeChar c ++ ofText (String.ofList text) := by
  have encoded : ∀ l : List Char, ofText (String.ofList l) = l.flatMap String.utf8EncodeChar := by
    intro l
    simp [ofText, List.utf8Encode]
  rw [encoded, encoded, List.flatMap_cons]

theorem newline_not_mem_ofText {text : List Char} (h : '\n' ∉ text) :
    newline ∉ ofText (String.ofList text) := by
  induction text with
  | nil => simp [ofText]
  | cons c text ih =>
      obtain ⟨here, later⟩ := not_or.mp (mt List.mem_cons.mpr h)
      rw [ofText_ofList_cons, List.mem_append, not_or]
      exact ⟨fun mem => here (eq_of_newline_mem mem).symm, ih later⟩

end Bytes

/-! ### Lines of a text -/

namespace InputLine

/-- The lines of a text, each with its end. -/
def pieces : List Char → List (List Char)
  | [] => []
  | c :: rest =>
      if c = '\n' then [c] :: pieces rest
      else match pieces rest with
        | [] => [[c]]
        | piece :: more => (c :: piece) :: more

/-- The physical lines of a text, without their ends. -/
def physical (text : String) : List String :=
  (pieces text.toList).map fun piece => String.ofList (withoutEnd piece)

/-- The logical lines that a line and the ones behind it make up, unless the last of them would go
on. -/
def joinFrom (line : String) : List String → Option (List String)
  | [] =>
      match continued? line with
      | none => some [line]
      | some _ => none
  | next :: rest =>
      match continued? line with
      | none => (joinFrom next rest).map (line :: ·)
      | some start => joinFrom (start ++ next) rest

/-- The logical lines that physical lines make up, unless the last of them would go on. -/
def join : List String → Option (List String)
  | [] => some []
  | line :: rest => joinFrom line rest

theorem pieces_eq_nil {text : List Char} (h : pieces text = []) : text = [] := by
  cases text with
  | nil => rfl
  | cons c rest =>
      unfold pieces at h
      split at h
      · cases h
      · split at h <;> cases h

theorem pieces_append {line : List Char} (inside : '\n' ∉ line) (rest : List Char) :
    pieces (line ++ '\n' :: rest) = (line ++ ['\n']) :: pieces rest := by
  induction line with
  | nil => simp [pieces]
  | cons c line ih =>
      have ends : c ≠ '\n' := fun e => inside (e ▸ List.mem_cons_self)
      have later : '\n' ∉ line := fun mem => inside (List.mem_cons_of_mem _ mem)
      simp [pieces, ends, ih later]

/-- The first line of a text is cut off where its bytes are cut. -/
theorem exists_splitLine_of_pieces {text piece : List Char} {more : List (List Char)}
    (h : pieces text = piece :: more) :
    ∃ rest, text = piece ++ rest ∧ piece ≠ [] ∧ pieces rest = more
      ∧ Bytes.splitLine (Bytes.ofText (String.ofList text))
        = (Bytes.ofText (String.ofList piece), Bytes.ofText (String.ofList rest)) := by
  induction text generalizing piece with
  | nil => cases h
  | cons c text ih =>
      rw [Bytes.ofText_ofList_cons]
      unfold pieces at h
      split at h
      · rename_i ends
        subst ends
        obtain ⟨rfl, rfl⟩ := List.cons.inj h
        exact ⟨text, rfl, by simp, rfl, rfl⟩
      · rename_i ends
        have inside : Bytes.newline ∉ String.utf8EncodeChar c :=
          fun mem => ends (Bytes.eq_of_newline_mem mem)
        rw [Bytes.splitLine_append_of_not_mem inside]
        split at h
        · rename_i none
          obtain ⟨rfl, rfl⟩ := List.cons.inj h
          obtain rfl := pieces_eq_nil none
          exact ⟨[], rfl, by simp, rfl, by rw [Bytes.ofText_ofList_cons]; rfl⟩
        · rename_i piece' more' some
          obtain ⟨rfl, rfl⟩ := List.cons.inj h
          obtain ⟨rest, rfl, -, behind, cut⟩ := ih some
          exact ⟨rest, rfl, by simp, behind, by rw [cut, Bytes.ofText_ofList_cons]⟩

theorem length_pieces_le (text : List Char) : (pieces text).length ≤ text.length := by
  induction text with
  | nil => simp [pieces]
  | cons c rest ih =>
      unfold pieces
      split
      · simpa using ih
      · split
        · simp
        · rename_i e
          rw [e] at ih
          simp only [List.length_cons] at ih ⊢
          omega

theorem length_le_length_ofText (text : List Char) :
    text.length ≤ (Bytes.ofText (String.ofList text)).length := by
  induction text with
  | nil => simp
  | cons c rest ih =>
      have size := Char.utf8Size_pos c
      rw [Bytes.ofText_ofList_cons, List.length_append, String.length_utf8EncodeChar]
      simp only [List.length_cons]
      omega

/-- There is nothing to rub out in a line without backspaces. -/
theorem cleaned_of_plain {line : List Char} (plain : backspace ∉ line) :
    cleaned (String.ofList line) = String.ofList (withoutEnd line) := by
  have inside : ∀ c ∈ withoutEnd line, c ∈ line := by
    intro c mem
    unfold withoutEnd at mem
    split at mem <;> rename_i e
    · rw [← List.mem_reverse, e]
      simp_all
    · rw [← List.mem_reverse, e]
      simp_all
    · exact mem
  have absent : (withoutEnd line).contains backspace = false := by
    simpa using fun mem => plain (inside _ mem)
  simp only [cleaned, rubOut, String.toList_ofList, absent]
  rfl

/-- A line makes up at least one logical line with those behind it. -/
theorem exists_joinFrom {line : String} {rest lines : List String}
    (h : joinFrom line rest = some lines) : ∃ first more, lines = first :: more := by
  induction rest generalizing line with
  | nil =>
      unfold joinFrom at h
      split at h
      · exact ⟨line, [], (Option.some.inj h).symm⟩
      · cases h
  | cons next rest ih =>
      unfold joinFrom at h
      split at h
      · obtain ⟨more, -, e⟩ := Option.map_eq_some_iff.mp h
        exact ⟨line, more, e.symm⟩
      · exact ih h

theorem eq_nil_of_join {lines : List String} (h : join lines = some []) : lines = [] := by
  cases lines with
  | nil => rfl
  | cons line rest =>
      obtain ⟨_, _, e⟩ := exists_joinFrom h
      cases e

end InputLine

end Shell
