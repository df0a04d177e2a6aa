/-!
# Redirect kinds

The seven ways a command line can redirect a stream, and how each is spelled.  A kind has one or
two spellings, no spelling belongs to two kinds (`ofSpelling?_eq_some_iff`), and every spelling but
`<` ends in `>`, possibly after one of the marks `1`, `2` and `&`.
-/

namespace Shell

/-- What a redirect does to the streams of a command. -/
inductive RedirectKind where
  /-- Standard output to a file, which is emptied first. -/
  | output
  /-- Standard output to the end of a file. -/
  | outputAppend
  /-- Standard error to a file, which is emptied first. -/
  | error
  /-- Standard error to the end of a file. -/
  | errorAppend
  /-- Both output streams to one file, which is emptied first. -/
  | allOutput
  /-- Both output streams to the end of one file. -/
  | allAppend
  /-- Standard input from a file. -/
  | input
  deriving DecidableEq, Repr, Inhabited

namespace RedirectKind

/-- Every kind. -/
def all : List RedirectKind :=
  [output, outputAppend, error, errorAppend, allOutput, allAppend, input]

/-- The operators that stand for a kind, the plain one first. -/
def spellings : RedirectKind → List String
  | output => [">", "1>"]
  | outputAppend => [">>", "1>>"]
  | error => ["2>"]
  | errorAppend => ["2>>"]
  | allOutput => ["&>"]
  | allAppend => ["&>>"]
  | input => ["<"]

/-- The kind that an operator stands for. -/
def ofSpelling? (text : String) : Option RedirectKind :=
  all.find? fun kind => kind.spellings.contains text

/-- Whether a text is a redirect operator. -/
def isSpelling (text : String) : Bool :=
  (ofSpelling? text).isSome

/-- The characters that can stand before `>` as part of the operator. -/
def isDescriptorMark (c : Char) : Bool :=
  c = '1' || c = '2' || c = '&'

/-- Whether the file is written at its end. -/
def appends : RedirectKind → Bool
  | outputAppend | errorAppend | allAppend => true
  | _ => false

theorem mem_all (kind : RedirectKind) : kind ∈ all := by
  cases kind <;> decide

theorem ofSpelling?_of_mem {kind : RedirectKind} {text : String} (h : text ∈ kind.spellings) :
    ofSpelling? text = some kind := by
  cases kind <;> simp only [spellings, List.mem_cons, List.not_mem_nil, or_false] at h
  case output | outputAppend => rcases h with rfl | rfl <;> rfl
  all_goals subst h; rfl

/-- The operators of a kind are its spellings, and no other text stands for it. -/
theorem ofSpelling?_eq_some_iff {kind : RedirectKind} {text : String} :
    ofSpelling? text = some kind ↔ text ∈ kind.spellings := by
  constructor
  · intro h
    have := List.find?_some h
    simpa using this
  · exact ofSpelling?_of_mem

end RedirectKind

end Shell
