import ListQuery.Text.ClusterTable

/-! Characters as a reader sees them: clusters of a base with its marks, syllables, joined
pictographs and pairs of regional letters. The rules are those of extended grapheme clusters: the
kinds of two neighbours, and for some of them what stands before, say whether they belong
together. -/

namespace ListQuery.Text

namespace Cluster

/-- What a character is for the rules. -/
inductive Kind where
  | carriageReturn
  | lineFeed
  | control
  /-- A mark that extends what stands before it. -/
  | mark
  /-- A mark that links consonants. -/
  | linker
  /-- The zero width joiner and non-joiner. -/
  | joiner
  | nonJoiner
  /-- A mark that stands beside what is before it. -/
  | spacing
  /-- A sign that belongs to what stands after it. -/
  | prepended
  | regional
  /-- The parts of Hangul syllables, and whole ones without and with a final consonant. -/
  | leading
  | vowel
  | trailing
  | openSyllable
  | closedSyllable
  | pictograph
  | consonant
  | other
deriving DecidableEq

namespace Kind

/-- Kinds that stand alone. -/
def isControl : Kind → Bool
  | carriageReturn | lineFeed | control => true
  | _ => false

/-- Marks that extend what stands before them. -/
def isExtending : Kind → Bool
  | mark | linker | nonJoiner => true
  | _ => false

/-- Kinds that belong to whatever stands before them. -/
def attaches : Kind → Bool
  | mark | linker | joiner | nonJoiner | spacing => true
  | _ => false

/-- Whether a part of a Hangul syllable goes on with another. -/
def continues : Kind → Kind → Bool
  | leading, leading | leading, vowel | leading, openSyllable | leading, closedSyllable => true
  | vowel, vowel | vowel, trailing | openSyllable, vowel | openSyllable, trailing => true
  | trailing, trailing | closedSyllable, trailing => true
  | _, _ => false

end Kind

/-- The part of a Hangul syllable that a code point is. -/
def hangul? (code : Nat) : Option Kind :=
  if (0x1100 ≤ code && code < 0x1160) || (0xA960 ≤ code && code < 0xA97D) then some .leading
  else if (0x1160 ≤ code && code < 0x11A8) || (0xD7B0 ≤ code && code < 0xD7C7)
      || code == 0x16D63 || (0x16D67 ≤ code && code < 0x16D6B) then some .vowel
  else if (0x11A8 ≤ code && code < 0x1200) || (0xD7CB ≤ code && code < 0xD7FC) then
    some .trailing
  else if 0xAC00 ≤ code && code < 0xD7A4 then
    if (code - 0xAC00) % 28 = 0 then some .openSyllable else some .closedSyllable
  else none

/-- The kind of a character. -/
def kind (c : Char) : Kind :=
  if c = '\r' then .carriageReturn
  else if c = '\n' then .lineFeed
  else if controls.contains c then .control
  else if c.toNat < 0xA9 then .other
  else if c.toNat = 0x200C then .nonJoiner
  else if c.toNat = 0x200D then .joiner
  else if conjunctLinkers.contains c then .linker
  else if extending.contains c then .mark
  else if spacing.contains c then .spacing
  else if prepended.contains c then .prepended
  else if 0x1F1E6 ≤ c.toNat && c.toNat < 0x1F200 then .regional
  else if conjunctConsonants.contains c then .consonant
  else if pictographs.contains c then .pictograph
  else (hangul? c.toNat).getD .other

/-- What the rules ask about the characters before a place. -/
structure Before where
  last : Kind
  /-- A pictograph with its marks, perhaps with a joiner behind them. -/
  onPictograph : Bool
  /-- A consonant with its marks. -/
  onConsonant : Bool
  /-- A linker among the marks of the consonant. -/
  linked : Bool
  /-- A regional letter that begins a pair. -/
  halfPair : Bool
deriving DecidableEq

namespace Before

/-- Behind the first character of a text. -/
def first (k : Kind) : Before :=
  ⟨k, k = .pictograph, k = .consonant, false, k = .regional⟩

/-- One character on. -/
def next (before : Before) (k : Kind) : Before :=
  let keepsConsonant := before.onConsonant && (k = .mark || k = .linker || k = .joiner)
  { last := k
    onPictograph := k = .pictograph
      || (before.onPictograph && before.last != .joiner && (k.isExtending || k = .joiner))
    onConsonant := k = .consonant || keepsConsonant
    linked := keepsConsonant && (before.linked || k = .linker)
    halfPair := k = .regional && !before.halfPair }

/-- Whether the next character belongs to the last one. -/
def joins (before : Before) (k : Kind) : Bool :=
  if before.last = .carriageReturn && k = .lineFeed then true
  else if before.last.isControl || k.isControl then false
  else if k.attaches || before.last = .prepended then true
  else if k = .consonant then before.linked
  else if k = .pictograph then before.onPictograph && before.last = .joiner
  else if k = .regional then before.halfPair
  else before.last.continues k

end Before

/-- What is left of an open cluster, and the clusters after it. -/
def continued (before : Before) : List Char → List Char × List (List Char)
  | [] => ([], [])
  | c :: rest =>
    let (inside, later) := continued (before.next (kind c)) rest
    if before.joins (kind c) then (c :: inside, later) else ([], (c :: inside) :: later)

end Cluster

/-- The clusters of a text. -/
def clusters : List Char → List (List Char)
  | [] => []
  | c :: rest =>
    let (inside, later) := Cluster.continued (.first (Cluster.kind c)) rest
    (c :: inside) :: later

end ListQuery.Text
