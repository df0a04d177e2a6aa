import Shell.Proofs.Outline

/-!
# File trees — writing at the end

Writing from an open file that stands at the end (`OpenFile.AtEnd`) adds bytes at the end
(`FileTree.write_of_atEnd`); `FileTree.extend` is that change.  A file that was just opened for
writing stands at the end, and so does one that was written to.
-/

namespace Shell

/-- The node with bytes added at its end, if it is a file. -/
def Node.extend (bytes : Bytes) : Node → Node
  | .file mode content => .file mode (content ++ bytes)
  | node => node

theorem Node.extend_nil (node : Node) : node.extend [] = node := by
  cases node <;> simp [extend]

theorem Node.extend_extend (node : Node) (bytes more : Bytes) :
    (node.extend bytes).extend more = node.extend (bytes ++ more) := by
  cases node <;> simp [extend]

namespace FileTree

/-- The tree with bytes added at the end of the file at a location, if there is one. -/
def extend (tree : FileTree) (location : Location) (bytes : Bytes) : FileTree :=
  match tree.get? location with
  | some (.file bits content) => tree.put location (.file bits (content ++ bytes))
  | _ => tree

theorem ne_nil_of_get?_file {tree : FileTree} {location : Location} {bits : Nat} {content : Bytes}
    (h : tree.get? location = some (.file bits content)) : location ≠ [] := by
  rintro rfl
  cases h

theorem extend_of_file {tree : FileTree} {location : Location} {bits : Nat} {content : Bytes}
    (h : tree.get? location = some (.file bits content)) (bytes : Bytes) :
    tree.extend location bytes = tree.put location (.file bits (content ++ bytes)) := by
  rw [extend, h]

theorem extend_of_not_file {tree : FileTree} {location : Location}
    (h : ∀ bits content, tree.get? location ≠ some (.file bits content)) (bytes : Bytes) :
    tree.extend location bytes = tree := by
  unfold extend
  split
  · rename_i e
    exact absurd e (h _ _)
  · rfl

@[simp]
theorem extend_nil (tree : FileTree) (location : Location) : tree.extend location [] = tree := by
  unfold extend
  split
  · rename_i e
    rw [List.append_nil]
    exact put_get? (ne_nil_of_get?_file e) e
  · rfl

theorem get?_extend_of_ne (tree : FileTree) {location other : Location} (h : other ≠ location)
    (bytes : Bytes) : (tree.extend location bytes).get? other = tree.get? other := by
  unfold extend
  split
  · exact get?_put_of_ne tree h _
  · rfl

theorem get?_extend_self (tree : FileTree) (location : Location) (bytes : Bytes) :
    (tree.extend location bytes).get? location = (tree.get? location).map (Node.extend bytes) := by
  unfold extend
  split
  · rename_i e
    rw [get?_put_self tree (ne_nil_of_get?_file e), e]
    rfl
  · rename_i other
    cases e : tree.get? location with
    | none => rfl
    | some node =>
        cases node with
        | file bits content => exact absurd e (other bits content)
        | _ => rfl

theorem outline_extend (tree : FileTree) (location : Location) (bytes : Bytes) :
    (tree.extend location bytes).outline = tree.outline := by
  unfold extend
  split
  · rename_i bits content e
    rw [outline_put]
    refine put_get? (ne_nil_of_get?_file e) ?_
    rw [get?_outline, e]
    rfl
  · rfl

theorem update_update (location : Location) (node next : Node) (entries : List (Location × Node)) :
    update location next (update location node entries) = update location next entries := by
  induction entries with
  | nil => simp [update]
  | cons entry rest ih =>
      by_cases h : entry.1 = location
      · simp [update, h]
      · simp [update, h, ih]

theorem extend_extend (tree : FileTree) (location : Location) (bytes more : Bytes) :
    (tree.extend location bytes).extend location more = tree.extend location (bytes ++ more) := by
  by_cases hf : ∃ bits content, tree.get? location = some (.file bits content)
  · obtain ⟨bits, content, e⟩ := hf
    have inside := ne_nil_of_get?_file e
    rw [extend_of_file e, extend_of_file e, extend_of_file (get?_put_self tree inside _),
      List.append_assoc]
    exact congrArg (FileTree.mk · tree.mask) (update_update ..)
  · have other : ∀ bits content, tree.get? location ≠ some (.file bits content) :=
      fun bits content e => hf ⟨bits, content, e⟩
    rw [extend_of_not_file other, extend_of_not_file other, extend_of_not_file other]

/-- Writing frees no place and takes none from what refuses bytes. -/
theorem refusal?_extend (tree : FileTree) (location other : Location) (bytes : Bytes) :
    (tree.extend location bytes).refusal? other = tree.refusal? other := by
  by_cases h : other = location
  · subst h
    rw [refusal?, refusal?, get?_extend_self]
    rcases tree.get? other with _ | node
    · rfl
    · cases node <;> rfl
  · exact refusal?_congr (get?_extend_of_ne tree h bytes)

theorem overwrite_at_end (content bytes : Bytes) :
    overwrite content content.length bytes = content ++ bytes := by
  simp [overwrite]

end FileTree

/-- Whether what is written next goes to the end of the file. -/
def OpenFile.AtEnd (file : OpenFile) (tree : FileTree) : Prop :=
  file.mode ≠ .read ∧ (file.mode = .truncate →
    ∀ bits content, tree.get? file.location = some (.file bits content) →
      file.offset = content.length)

theorem OpenFile.AtEnd.congr {file : OpenFile} {tree tree' : FileTree} (h : file.AtEnd tree)
    (e : tree'.get? file.location = tree.get? file.location) : file.AtEnd tree' := by
  rwa [AtEnd, e]

/-- A file that was opened for writing is at its end. -/
theorem OpenFile.atEnd_of_afterOpen {tree tree' : FileTree} {mode : OpenMode} {location : Location}
    (h : tree.AfterOpen mode location tree') (writes : mode ≠ .read) :
    OpenFile.AtEnd { location, mode } tree' := by
  refine ⟨writes, fun truncates bits content e => ?_⟩
  cases h with
  | same kept => exact absurd e (kept truncates bits content)
  | emptied _ inside _ =>
      rw [FileTree.get?_put_self tree inside] at e
      cases e
      rfl

/-- **Writing at the end of a file** that takes bytes adds them there, and the open file stands at
the end again. -/
theorem FileTree.write_of_atEnd {tree : FileTree} {file : OpenFile} {bytes : Bytes}
    (h : file.AtEnd tree)
    (takes : bytes ≠ [] → tree.refusal? file.location = none) :
    ∃ offset, tree.write file bytes
        = .ok ({ file with offset }, tree.extend file.location bytes)
      ∧ OpenFile.AtEnd { file with offset } (tree.extend file.location bytes) := by
  by_cases hb : bytes = []
  · subst hb
    exact ⟨file.offset, by simp [write], by simpa using h⟩
  have kept : (∀ bits content, tree.get? file.location ≠ some (.file bits content)) →
      tree.write file bytes = .ok (file, tree) := by
    intro other
    rw [write, if_neg hb, if_neg h.1]
    split
    · exact absurd ‹_› (other _ _)
    · rw [takes hb]
  by_cases hf : ∃ bits content, tree.get? file.location = some (.file bits content)
  · obtain ⟨bits, content, e⟩ := hf
    obtain ⟨location, mode, offset⟩ := file
    rw [extend_of_file e]
    cases mode with
    | read => exact absurd rfl h.1
    | append =>
        exact ⟨offset, by simp [write, hb, e], by simp, fun ht => by cases ht⟩
    | truncate =>
        obtain rfl : offset = content.length := h.2 rfl _ _ e
        refine ⟨content.length + bytes.length, ?_, by simp, ?_⟩
        · simp [write, hb, e, overwrite_at_end]
        · intro _ bits' content' e'
          rw [get?_put_self tree (ne_nil_of_get?_file e)] at e'
          cases e'
          exact List.length_append.symm
  · have other : ∀ bits content, tree.get? file.location ≠ some (.file bits content) :=
      fun bits content e => hf ⟨bits, content, e⟩
    rw [extend_of_not_file other]
    exact ⟨file.offset, kept other, h⟩

end Shell
