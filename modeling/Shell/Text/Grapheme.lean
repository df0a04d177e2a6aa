import Shell.Text.Property

/-!
# Text — graphemes

User-perceived characters: a text is cut into extended grapheme clusters, each a base character
with the marks, joiners and modifiers that belong to it.  Between two neighbouring characters the
cut is decided by their classes and by what stands before them (`Cut.breaks`): whether a pictograph
is waiting for a joiner, whether the run of regional indicators so far is odd, and whether a
consonant has met a linking mark.  `graphemes` loses no character (`flatten_graphemes`).
-/

namespace Shell.Text

/-- What a character contributes to the decision where clusters end. -/
inductive Class where
  | carriageReturn | lineFeed | control | extend | joiner | regional | lean | space
  | leading | vowel | trailing | syllable | closedSyllable | other
  deriving DecidableEq, Repr

/-- The class of a character. -/
def Class.of (c : Char) : Class :=
  let n := c.toNat
  if n = 13 then .carriageReturn
  else if n = 10 then .lineFeed
  else if 0x20 ≤ n && n < 0x7F then .other
  else if n = 0x200D then .joiner
  else if Property.holds Property.controlling c then .control
  else if Property.holds Property.extending c || Property.holds Property.skinTone c then .extend
  else if 0x1F1E6 ≤ n && n ≤ 0x1F1FF then .regional
  else if Property.holds Property.leaning c then .lean
  else if Property.holds Property.spacing c then .space
  else if (0x1100 ≤ n && n ≤ 0x115F) || (0xA960 ≤ n && n ≤ 0xA97C) then .leading
  else if (0x1160 ≤ n && n ≤ 0x11A7) || (0xD7B0 ≤ n && n ≤ 0xD7C6)
      || Property.holds Property.vowelSign c then .vowel
  else if (0x11A8 ≤ n && n ≤ 0x11FF) || (0xD7CB ≤ n && n ≤ 0xD7FB) then .trailing
  else if 0xAC00 ≤ n && n ≤ 0xD7A3 then
    if (n - 0xAC00) % 28 = 0 then .syllable else .closedSyllable
  else .other

/-- Whether a character keeps a consonant waiting for the one it fuses with: every mark and the
joiner do, the sign that keeps letters apart does not. -/
def keepsConjunct (c : Char) : Bool :=
  (Class.of c = .extend || Class.of c = .joiner) && c.toNat ≠ 0x200C

/-- What the characters up to a possible cut have in store for the next one. -/
structure Cut where
  /-- The class of the last character. -/
  last : Class
  /-- A pictograph stands before the marks just read, and the last character may join it. -/
  pictograph : Bool
  /-- The regional indicators just read are odd in number. -/
  oddRegional : Bool
  /-- A consonant stands before the marks just read. -/
  consonant : Bool
  /-- One of those marks is a linking mark. -/
  linked : Bool

/-- The state after a first character. -/
def Cut.start (c : Char) : Cut where
  last := Class.of c
  pictograph := Property.holds Property.pictographic c
  oddRegional := Class.of c = .regional
  consonant := Property.holds Property.conjunct c
  linked := false

/-- The state after one character more. -/
def Cut.advance (cut : Cut) (c : Char) : Cut :=
  let k := Class.of c
  let mark := k = .extend || k = .joiner
  { last := k
    pictograph := Property.holds Property.pictographic c
      || (cut.pictograph && mark && cut.last ≠ .joiner)
    oddRegional := k = .regional && !cut.oddRegional
    consonant := Property.holds Property.conjunct c || (cut.consonant && keepsConjunct c)
    linked := !Property.holds Property.conjunct c
      && (Property.holds Property.linking c || (cut.linked && keepsConjunct c)) }

/-- Whether a cluster ends before `c`. -/
def Cut.breaks (cut : Cut) (c : Char) : Bool :=
  let k := Class.of c
  if cut.last = .carriageReturn && k = .lineFeed then false
  else if cut.last = .carriageReturn || cut.last = .lineFeed || cut.last = .control then true
  else if k = .carriageReturn || k = .lineFeed || k = .control then true
  else if cut.last = .leading
      && (k = .leading || k = .vowel || k = .syllable || k = .closedSyllable) then false
  else if (cut.last = .syllable || cut.last = .vowel) && (k = .vowel || k = .trailing) then false
  else if (cut.last = .closedSyllable || cut.last = .trailing) && k = .trailing then false
  else if k = .extend || k = .joiner || k = .space then false
  else if cut.last = .lean then false
  else if cut.consonant && cut.linked && Property.holds Property.conjunct c then false
  else if cut.last = .joiner && cut.pictograph && Property.holds Property.pictographic c then false
  else if cut.last = .regional && cut.oddRegional && k = .regional then false
  else true

/-- The clusters of a text that continues the cluster `current`, whose characters are given latest
first. -/
def graphemesFrom (cut : Cut) (current : List Char) : List Char → List (List Char)
  | [] => [current.reverse]
  | c :: rest =>
      if cut.breaks c then current.reverse :: graphemesFrom (Cut.start c) [c] rest
      else graphemesFrom (cut.advance c) (c :: current) rest

/-- The user-perceived characters of a text, in order. -/
def graphemes : List Char → List (List Char)
  | [] => []
  | c :: rest => graphemesFrom (Cut.start c) [c] rest

theorem flatten_graphemesFrom (cut : Cut) (current text : List Char) :
    (graphemesFrom cut current text).flatten = current.reverse ++ text := by
  induction text generalizing cut current with
  | nil => simp [graphemesFrom]
  | cons c rest ih =>
      by_cases h : cut.breaks c
      · simp [graphemesFrom, h, ih]
      · simp [graphemesFrom, h, ih]

/-- Cutting into clusters loses no character. -/
theorem flatten_graphemes (text : List Char) : (graphemes text).flatten = text := by
  cases text with
  | nil => rfl
  | cons c rest => simp [graphemes, flatten_graphemesFrom]

end Shell.Text
