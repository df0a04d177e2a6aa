/-!
# Text — fields

A text cut at every occurrence of a separator.  `fields` keeps empty fields, so there is always one
more field than there are separators, and joining the fields with the separator gives the text back
(`joined_fields`).  A text with the separator inside has the fields of what stands before it and of
what stands behind it (`fields_append`).
-/

namespace Shell.Text

/-- The pieces between the separators, empty ones included. -/
def fields (separator : Char) : List Char → List (List Char)
  | [] => [[]]
  | c :: rest =>
      if c = separator then [] :: fields separator rest
      else match fields separator rest with
        | [] => [[c]]
        | field :: more => (c :: field) :: more

/-- The pieces written one after another with the separator between neighbours. -/
def joined (separator : Char) : List (List Char) → List Char
  | [] => []
  | [field] => field
  | field :: more => field ++ separator :: joined separator more

theorem fields_ne_nil (separator : Char) (text : List Char) : fields separator text ≠ [] := by
  cases text with
  | nil => simp [fields]
  | cons c rest =>
      by_cases h : c = separator
      · simp [fields, h]
      · simp only [fields, h, if_false]
        split <;> simp

/-- Cutting loses nothing. -/
theorem joined_fields (separator : Char) (text : List Char) :
    joined separator (fields separator text) = text := by
  induction text with
  | nil => rfl
  | cons c rest ih =>
      cases hf : fields separator rest with
      | nil => exact absurd hf (fields_ne_nil separator rest)
      | cons field more =>
          rw [hf] at ih
          by_cases h : c = separator
          · subst h
            simp [fields, hf, joined, ih]
          · cases more with
            | nil => simp_all [fields, joined]
            | cons next others => simp_all [fields, joined]

/-- A separator ends a field, so that what stands behind it is cut by itself. -/
theorem fields_append (separator : Char) (text rest : List Char) :
    fields separator (text ++ separator :: rest)
      = fields separator text ++ fields separator rest := by
  induction text with
  | nil => simp [fields]
  | cons c text ih =>
      by_cases h : c = separator
      · simp [fields, h, ih]
      · cases hf : fields separator text with
        | nil => exact absurd hf (fields_ne_nil separator text)
        | cons field more => simp [fields, h, ih, hf]

/-- A field never holds the separator. -/
theorem separator_not_mem_fields (separator : Char) (text : List Char) :
    ∀ field ∈ fields separator text, separator ∉ field := by
  induction text with
  | nil => simp [fields]
  | cons c rest ih =>
      by_cases h : c = separator
      · simp only [fields, h, if_true, List.mem_cons]
        rintro field (rfl | hf)
        · simp
        · exact ih field hf
      · cases hf : fields separator rest with
        | nil => exact absurd hf (fields_ne_nil separator rest)
        | cons first more =>
            rw [hf] at ih
            simp only [fields, h, if_false, hf, List.mem_cons]
            rintro field (rfl | hm)
            · simp [Ne.symm h, ih first (by simp)]
            · exact ih field (by simp [hm])

end Shell.Text
