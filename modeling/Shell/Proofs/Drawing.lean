import Shell.Proofs.InputLines

/-!
# Readers — what is left to read

A reader takes blocks from its source and hands out what it has taken.  What is left to read is what
stands ahead of the source, and behind that what the source has still (`Reader.left?`).  How much of
it stands ahead is not to be seen from outside: a request for a line, a block or the rest takes its
answer from the front of what is left (`Answers`), and leaves what is behind.

* `Source.Moved`: a source that bytes were taken from, and nothing else.
* `Reader.exists_readLineWithin`: a line is read through as many blocks as it takes.
* `Reader.exists_ask`: every request is answered so.
-/

namespace Shell

/-! ### Sources -/

namespace FileTree

/-- What there is to read in a file, if it has a content. -/
def content? (tree : FileTree) (location : Location) : Option Bytes :=
  match tree.get? location with
  | some (.file _ content) => some content
  | some (.device .null) => some []
  | _ => none

variable {tree : FileTree} {file : OpenFile} {content : Bytes}

theorem exists_read (reads : file.mode = .read)
    (found : tree.content? file.location = some content) (count : Nat) :
    ∃ offset, tree.read file count
        = .ok ((content.drop file.offset).take count, { file with offset })
      ∧ content.drop offset = (content.drop file.offset).drop count := by
  unfold content? at found
  split at found
  · rename_i regular
    cases found
    let left := content.drop file.offset
    refine ⟨file.offset + (left.take count).length, by simp [read, reads, regular, left], ?_⟩
    have cut : left = left.take count ++ left.drop count := (List.take_append_drop ..).symm
    calc content.drop (file.offset + (left.take count).length)
        = left.drop (left.take count).length := List.drop_drop.symm
      _ = (left.take count ++ left.drop count).drop (left.take count).length := by rw [← cut]
      _ = left.drop count := List.drop_left
  · rename_i null
    cases found
    obtain ⟨location, mode, offset⟩ := file
    obtain rfl := reads
    exact ⟨offset, by simp [read, null], by simp⟩
  · cases found

theorem exists_readRest (reads : file.mode = .read)
    (found : tree.content? file.location = some content) :
    ∃ offset, tree.readRest file = .ok (content.drop file.offset, { file with offset })
      ∧ content.drop offset = [] := by
  have all : ∀ {count}, content.length ≤ count → (content.drop file.offset).length ≤ count := by
    intro count enough
    rw [List.length_drop]
    omega
  obtain ⟨count, enough, asked⟩ : ∃ count, content.length ≤ count
      ∧ tree.readRest file = tree.read file count := by
    unfold content? at found
    split at found
    · rename_i regular
      cases found
      exact ⟨_, Nat.le_refl _, by simp only [readRest, regular]⟩
    · rename_i null
      cases found
      exact ⟨1, Nat.zero_le _, by simp only [readRest, null]⟩
    · cases found
  obtain ⟨offset, read, behind⟩ := exists_read reads found count
  refine ⟨offset, ?_, behind.trans (List.drop_of_length_le (all enough))⟩
  rw [asked, read, List.take_of_length_le (all enough)]

end FileTree

namespace Source

/-- What a source has still. -/
def left? (source : Source) (machine : Machine) : Option Bytes :=
  match source with
  | .nothing => some []
  | .console => some machine.console.input
  | .opened file =>
      if file.mode = .read then
        (machine.tree.content? file.location).map fun content => content.drop file.offset
      else none

variable {source source' source'' : Source} {machine machine' machine'' : Machine}
  {bytes rest : Bytes}

theorem left?_opened_iff {file : OpenFile} : (opened file).left? machine = some bytes
    ↔ file.mode = .read ∧ ∃ content, machine.tree.content? file.location = some content
      ∧ content.drop file.offset = bytes := by
  simp only [left?, Option.ite_none_right_eq_some, Option.map_eq_some_iff]

/-- A source and its machine after bytes were taken from it, so that others are left. -/
inductive Moved : Source → Machine → Bytes → Source → Machine → Prop where
  | nothing (machine : Machine) : Moved .nothing machine [] .nothing machine
  | console (machine : Machine) (rest : Bytes) :
      Moved .console machine rest .console { machine with console.input := rest }
  | opened {file : OpenFile} {offset : Nat} {machine : Machine} {rest : Bytes}
      (h : (opened { file with offset }).left? machine = some rest) :
      Moved (.opened file) machine rest (.opened { file with offset }) machine

namespace Moved

theorem left (h : Moved source machine rest source' machine') :
    source'.left? machine' = some rest := by
  cases h with
  | nothing | console => rfl
  | opened h => exact h

theorem refl (h : source.left? machine = some bytes) :
    Moved source machine bytes source machine := by
  cases source with
  | nothing =>
      cases h
      exact .nothing machine
  | console =>
      cases h
      exact .console machine _
  | opened file => exact @Moved.opened file file.offset machine bytes h

theorem trans (h : Moved source machine bytes source' machine')
    (h' : Moved source' machine' rest source'' machine'') :
    Moved source machine rest source'' machine'' := by
  cases h with
  | nothing => exact h'
  | console =>
      cases h'
      exact .console machine rest
  | opened =>
      cases h' with
      | opened h' => exact .opened h'

end Moved

/-- **Some bytes** are taken from the front. -/
theorem exists_take (h : source.left? machine = some bytes) (count : Nat) :
    ∃ source' machine', source.take machine count = (.ok (bytes.take count), source', machine')
      ∧ Moved source machine (bytes.drop count) source' machine' := by
  cases source with
  | nothing =>
      cases h
      exact ⟨_, _, by rw [List.take_nil]; rfl, by rw [List.drop_nil]; exact .nothing machine⟩
  | console =>
      cases h
      exact ⟨_, _, rfl, .console machine _⟩
  | opened file =>
      obtain ⟨reads, content, found, rfl⟩ := left?_opened_iff.mp h
      obtain ⟨offset, read, behind⟩ := FileTree.exists_read reads found count
      exact ⟨.opened { file with offset }, machine, by simp only [take, read],
        .opened (left?_opened_iff.mpr ⟨reads, content, found, behind⟩)⟩

/-- **All that is left** is taken at once. -/
theorem exists_takeRest (h : source.left? machine = some bytes) :
    ∃ source' machine', source.takeRest machine = (.ok bytes, source', machine')
      ∧ Moved source machine [] source' machine' := by
  cases source with
  | nothing =>
      cases h
      exact ⟨_, _, rfl, .nothing machine⟩
  | console =>
      cases h
      refine ⟨.console, _, ?_, .console machine []⟩
      simp [takeRest, take]
  | opened file =>
      obtain ⟨reads, content, found, rfl⟩ := left?_opened_iff.mp h
      obtain ⟨offset, read, behind⟩ := FileTree.exists_readRest reads found
      exact ⟨.opened { file with offset }, machine, by simp only [takeRest, read],
        .opened (left?_opened_iff.mpr ⟨reads, content, found, behind⟩)⟩

theorem length_le_bound (h : source.left? machine = some bytes) :
    bytes.length ≤ source.bound machine := by
  cases source with
  | nothing | console =>
      cases h
      exact Nat.le_refl _
  | opened file =>
      obtain ⟨-, content, found, rfl⟩ := left?_opened_iff.mp h
      unfold FileTree.content? at found
      split at found
      · rename_i regular
        cases found
        simp only [bound, regular, List.length_drop]
        omega
      · cases found
        simp
      · cases found

end Source

/-! ### Readers -/

namespace Reader

/-- What is left to read. -/
def left? (reader : Reader) (machine : Machine) : Option Bytes :=
  (reader.source.left? machine).map (reader.ahead ++ ·)

variable {source : Source} {ahead bytes : Bytes} {machine : Machine} {blocks : Nat}

theorem readLineWithin_of_mem (ends : Bytes.newline ∈ ahead) :
    readLineWithin { source, ahead } machine (blocks + 1)
      = (.ok (Bytes.splitLine ahead).1, { source, ahead := (Bytes.splitLine ahead).2 },
        machine) := by
  have some : ahead ≠ [] := List.ne_nil_of_mem ends
  simp [readLineWithin, fill, some, Bytes.getLast?_splitLine_of_mem ends]

theorem readLineWithin_of_not_mem (some : ahead ≠ []) (goesOn : Bytes.newline ∉ ahead) :
    readLineWithin { source, ahead } machine (blocks + 1)
      = match readLineWithin { source } machine blocks with
        | (.error e, reader, machine) => (.error e, reader, machine)
        | (.ok more, reader, machine) => (.ok (ahead ++ more), reader, machine) := by
  have last : ahead.getLast? ≠ Option.some Bytes.newline :=
    fun e => goesOn (List.mem_of_getLast? e)
  simp only [readLineWithin, fill, ne_eq, some, not_false_eq_true, if_true,
    Bytes.splitLine_of_not_mem goesOn, last]
  rcases readLineWithin { source } machine blocks with ⟨_ | _, _, _⟩ <;> rfl

/-- Where nothing stands ahead, a line is read from the next block. -/
theorem readLineWithin_of_take {block : Bytes} {source' : Source} {machine' : Machine}
    (taken : source.take machine bufferSize = (.ok block, source', machine')) :
    readLineWithin { source } machine (blocks + 1)
      = if block = [] then (.ok [], { source := source' }, machine')
        else readLineWithin { source := source', ahead := block } machine' (blocks + 1) := by
  split
  · rename_i none
    subst none
    simp [readLineWithin, fill, taken, Bytes.splitLine]
  · rename_i some
    have filled : fill { source } machine
        = fill { source := source', ahead := block } machine' := by
      simp [fill, taken, some]
    rw [readLineWithin, readLineWithin, filled]

/-- **A line** is read up to its end through blocks, whatever part of it stood ahead. -/
theorem exists_readLineWithin (left : source.left? machine = some bytes)
    (enough : bytes.length + (if ahead = [] then 1 else 2) ≤ blocks) :
    ∃ ahead' rest source' machine', readLineWithin { source, ahead } machine blocks
        = (.ok (Bytes.splitLine (ahead ++ bytes)).1, { source := source', ahead := ahead' },
          machine')
      ∧ source.Moved machine rest source' machine'
      ∧ ahead' ++ rest = (Bytes.splitLine (ahead ++ bytes)).2 ∧ rest <:+ bytes := by
  induction blocks generalizing ahead source machine bytes with
  | zero =>
      split at enough <;> omega
  | succ blocks ih =>
      -- where something stands ahead, either the line ends in it or it is used up
      have here : ∀ {source : Source} {machine : Machine} {ahead bytes : Bytes},
          source.left? machine = some bytes → ahead ≠ [] → bytes.length + 1 ≤ blocks →
          ∃ ahead' rest source' machine', readLineWithin { source, ahead } machine (blocks + 1)
              = (.ok (Bytes.splitLine (ahead ++ bytes)).1, { source := source', ahead := ahead' },
                machine')
            ∧ source.Moved machine rest source' machine'
            ∧ ahead' ++ rest = (Bytes.splitLine (ahead ++ bytes)).2 ∧ rest <:+ bytes := by
        intro source machine ahead bytes left some enough
        by_cases ends : Bytes.newline ∈ ahead
        · rw [readLineWithin_of_mem ends, Bytes.splitLine_append_of_mem ends]
          exact ⟨_, bytes, _, _, rfl, .refl left, rfl, List.suffix_refl _⟩
        · obtain ⟨ahead', rest, source', machine', read, moved, behind, suffix⟩ :=
            @ih _ [] _ _ left (by simpa using enough)
          rw [readLineWithin_of_not_mem some ends, read, Bytes.splitLine_append_of_not_mem ends]
          exact ⟨ahead', rest, source', machine', rfl, moved, behind, suffix⟩
      by_cases empty : ahead = []
      · subst empty
        obtain ⟨source', machine', taken, moved⟩ := Source.exists_take left bufferSize
        rw [readLineWithin_of_take taken]
        split
        · rename_i none
          obtain rfl : bytes = [] := by simpa [bufferSize] using none
          exact ⟨[], _, source', machine', rfl, moved, rfl, List.suffix_refl _⟩
        · rename_i block
          have some : bytes ≠ [] := by
            rintro rfl
            exact block List.take_nil
          have fewer : (bytes.drop bufferSize).length + 1 ≤ blocks := by
            have := List.length_pos_iff.mpr some
            simp only [List.length_drop, bufferSize, if_true] at enough ⊢
            omega
          obtain ⟨ahead', rest, source'', machine'', read, moved', behind, suffix⟩ :=
            here moved.left block fewer
          rw [List.take_append_drop] at read behind
          exact ⟨ahead', rest, source'', machine'', read, moved.trans moved', behind,
            suffix.trans (List.drop_suffix ..)⟩
      · exact here left empty (by simp only [empty, if_false] at enough; omega)

theorem exists_readLine (left : source.left? machine = some bytes) (ahead : Bytes) :
    ∃ ahead' rest source' machine', readLine { source, ahead } machine
        = (.ok (Bytes.splitLine (ahead ++ bytes)).1, { source := source', ahead := ahead' },
          machine')
      ∧ source.Moved machine rest source' machine'
      ∧ ahead' ++ rest = (Bytes.splitLine (ahead ++ bytes)).2 ∧ rest <:+ bytes := by
  refine exists_readLineWithin left ?_
  have bound := Source.length_le_bound left
  split <;> simp only <;> omega

end Reader

/-! ### Requests -/

/-- What a command can ask its input for. -/
inductive Request where
  /-- A line of text. -/
  | line
  /-- At most so many bytes. -/
  | block (count : Nat)
  /-- Everything. -/
  | rest
  deriving DecidableEq, Repr

/-- Read what is asked for. -/
def Reader.ask (reader : Reader) (machine : Machine) (request : Request) :
    Except SystemError Bytes × Reader × Machine :=
  match request with
  | .line =>
      let (result, reader, machine) := reader.readTextLine machine
      (result.map Bytes.ofText, reader, machine)
  | .block count => reader.readBlock machine count
  | .rest => reader.readRest machine

/-- Whether some bytes are what a request takes from the front of what is left. -/
def Request.Takes (request : Request) (left taken : Bytes) : Prop :=
  match request with
  | .line => taken = (Bytes.splitLine left).1
  | .block count =>
      taken <+: left ∧ taken.length ≤ count ∧ (taken = [] → count = 0 ∨ left = [])
  | .rest => taken = left

/-- How a request is answered.  What it takes is handed out, unless it is to be a line and is no
text; and the front line of a text is one. -/
structure Answers (request : Request) (left taken : Bytes) (answer : Except SystemError Bytes) :
    Prop where
  takes : request.Takes left taken
  told : answer = if request = .line ∧ taken.text? = none then .error .notText else .ok taken
  text : ∀ text, left = Bytes.ofText text → answer = .ok taken

namespace Bytes

theorem ofText_of_text? {bytes : Bytes} {text : String} (h : bytes.text? = some text) :
    ofText text = bytes := by
  unfold text? String.fromUTF8? at h
  split at h
  · cases h
    rfl
  · cases h

/-- The front line of a text is one. -/
theorem text?_splitLine_ofText (text : String) : (splitLine (ofText text)).1.text? ≠ none := by
  obtain ⟨chars, rfl⟩ : ∃ chars, text = String.ofList chars :=
    ⟨text.toList, String.ofList_toList.symm⟩
  cases pieces : InputLine.pieces chars with
  | nil =>
      obtain rfl := InputLine.pieces_eq_nil pieces
      exact nofun
  | cons piece more =>
      obtain ⟨rest, -, -, -, cut⟩ := InputLine.exists_splitLine_of_pieces pieces
      rw [cut, text?_ofText]
      exact nofun

end Bytes

theorem Request.Takes.front {request : Request} {left taken : Bytes}
    (h : request.Takes left taken) : taken <+: left := by
  cases request with
  | line =>
      obtain rfl := h
      exact ⟨_, Bytes.splitLine_append left⟩
  | block => exact h.1
  | rest =>
      obtain rfl := h
      exact List.prefix_refl _

namespace Reader

/-- A reader and its machine after bytes were taken from it, so that others are left. -/
def Moved (reader : Reader) (machine : Machine) (rest : Bytes) (reader' : Reader)
    (machine' : Machine) : Prop :=
  ∃ behind, reader.source.Moved machine behind reader'.source machine'
    ∧ reader'.ahead ++ behind = rest

variable {reader reader' : Reader} {machine machine' : Machine} {rest bytes : Bytes}

theorem Moved.left (h : reader.Moved machine rest reader' machine') :
    reader'.left? machine' = some rest := by
  obtain ⟨behind, moved, rfl⟩ := h
  rw [left?, moved.left]
  rfl

/-- After a block was taken, if none was at hand, something stands ahead unless nothing is left. -/
theorem exists_fill (h : reader.left? machine = some bytes) :
    ∃ reader' machine', reader.fill machine = (.ok (), reader', machine')
      ∧ reader.Moved machine bytes reader' machine' ∧ (reader'.ahead = [] → bytes = []) := by
  obtain ⟨source, ahead⟩ := reader
  obtain ⟨behind, left, rfl⟩ := Option.map_eq_some_iff.mp h
  by_cases empty : ahead = []
  · subst empty
    obtain ⟨source', machine', taken, moved⟩ := Source.exists_take left bufferSize
    refine ⟨{ source := source', ahead := behind.take bufferSize }, machine',
      by simp [fill, taken], ⟨_, moved, List.take_append_drop ..⟩, fun none => ?_⟩
    simpa [bufferSize] using none
  · exact ⟨{ source, ahead }, machine, by simp [fill, empty], ⟨behind, .refl left, rfl⟩,
      fun none => absurd none empty⟩

/-- **A block** is taken from what stands ahead, or past it. -/
theorem exists_readBlock (h : reader.left? machine = some bytes) (count : Nat) :
    ∃ taken rest reader' machine', reader.readBlock machine count = (.ok taken, reader', machine')
      ∧ (Request.block count).Takes bytes taken ∧ taken ++ rest = bytes
      ∧ reader.Moved machine rest reader' machine' := by
  by_cases past : reader.ahead = [] ∧ bufferSize ≤ count
  · obtain ⟨source, ahead⟩ := reader
    obtain ⟨rfl, large⟩ := past
    obtain ⟨behind, left, rfl⟩ := Option.map_eq_some_iff.mp h
    obtain ⟨source', machine', taken, moved⟩ := Source.exists_take left count
    refine ⟨behind.take count, behind.drop count, { source := source', ahead := [] }, machine',
      by simp [readBlock, large, taken], ⟨List.take_prefix .., List.length_take_le .., ?_⟩,
      List.take_append_drop .., ⟨_, moved, rfl⟩⟩
    intro none
    exact List.take_eq_nil_iff.mp none
  · obtain ⟨⟨source', ahead'⟩, machine', filled, ⟨behind, moved, rfl⟩, ended⟩ := exists_fill h
    refine ⟨ahead'.take count, ahead'.drop count ++ behind,
      { source := source', ahead := ahead'.drop count }, machine', ?_, ⟨?_, ?_, fun none => ?_⟩, ?_,
      ⟨behind, moved, rfl⟩⟩
    · have near : (decide (reader.ahead = []) && decide (bufferSize ≤ count)) = false := by
        simpa using past
      simp only [readBlock, near, Bool.false_eq_true, if_false, filled]
    · exact (List.take_prefix ..).trans (List.prefix_append ..)
    · exact List.length_take_le ..
    · exact (List.take_eq_nil_iff.mp none).imp_right ended
    · rw [← List.append_assoc, List.take_append_drop]

/-- **Every request** takes its answer from the front of what is left. -/
theorem exists_ask (h : reader.left? machine = some bytes) (request : Request) :
    ∃ answer taken rest reader' machine',
      reader.ask machine request = (answer, reader', machine')
        ∧ Answers request bytes taken answer ∧ taken ++ rest = bytes
        ∧ reader.Moved machine rest reader' machine' := by
  cases request with
  | line =>
      obtain ⟨source, ahead⟩ := reader
      obtain ⟨behind, left, rfl⟩ := Option.map_eq_some_iff.mp h
      obtain ⟨ahead', rest, source', machine', read, moved, behind', -⟩ :=
        exists_readLine left ahead
      let line := (Bytes.splitLine (ahead ++ behind)).1
      refine ⟨if line.text? = none then .error .notText else .ok line, line, _,
        { source := source', ahead := ahead' }, machine', ?_, ⟨rfl, by simp, fun text whole => ?_⟩,
        Bytes.splitLine_append _, ⟨rest, moved, behind'⟩⟩
      · simp only [ask, readTextLine, read]
        cases e : line.text? with
        | none => simp [Except.map]
        | some text => simp [line, Except.map, Bytes.ofText_of_text? e]
      · rw [if_neg]
        simp only [line, whole]
        exact Bytes.text?_splitLine_ofText text
  | block count =>
      obtain ⟨taken, rest, reader', machine', read, takes, split, moved⟩ :=
        exists_readBlock h count
      exact ⟨.ok taken, taken, rest, reader', machine', read, ⟨takes, by simp, fun _ _ => rfl⟩,
        split, moved⟩
  | rest =>
      obtain ⟨source, ahead⟩ := reader
      obtain ⟨behind, left, rfl⟩ := Option.map_eq_some_iff.mp h
      obtain ⟨source', machine', taken, moved⟩ := Source.exists_takeRest left
      exact ⟨.ok (ahead ++ behind), ahead ++ behind, [], { source := source', ahead := [] },
        machine', by simp only [ask, readRest, taken], ⟨rfl, by simp, fun _ _ => rfl⟩,
        List.append_nil _, ⟨[], moved, rfl⟩⟩

end Reader

end Shell
