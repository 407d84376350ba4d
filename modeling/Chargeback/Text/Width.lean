import Chargeback.Text.WidthTables

/-!
# Display width

The number of columns that a text takes up in a table. East Asian wide and fullwidth characters and
pictographs take two columns; marks that attach to another character and characters without an
appearance take none; all others, controls among them, take one. Some characters take up less or
more before certain others: a selector shows a character as a pictograph or as text, a zero width
joiner fuses pictographs, two regional indicators make a flag, and letters of some scripts join. So
a text is measured from its end, and a step knows what its character stands before.
-/

namespace Chargeback

/-- The letters and marks that join with the letter before them. -/
inductive Letter
  | alef
  | hebrewLamed
  | khmer
  | bugineseYa
  | bugineseVowel
  | tifinagh
  | tifinaghJoiner
  | lisuTone
  | oldTurkic
  deriving DecidableEq

/-- The pieces of emoji sequences. -/
inductive Piece
  | pictograph
  | skinTone
  | regional
  | regionals
  | oddRegionals
  | evenRegionals
  | joined
  | joinedRegional
  | keycap
  /-- The end of a subdivision flag after so many tag letters. -/
  | tagLetters (count : Nat)
  /-- The end of a subdivision flag after so many tag digits, which come before the letters. -/
  | tagDigits (count : Nat)
  deriving DecidableEq

/-- What the text to the right of a character begins with. -/
inductive Link
  | none
  /-- A letter, and whether a joiner stands before it. -/
  | letter (letter : Letter) (joiner : Bool)
  | piece (piece : Piece)
  deriving DecidableEq

/-- What a character stands before: its link to the right, and the selectors in between. -/
structure Following where
  link : Link
  asPictograph : Bool
  asText : Bool
  deriving DecidableEq

namespace Following

/-- Nothing that a character joins with. -/
def plain : Following := ⟨.none, false, false⟩

/-- A letter. -/
def ofLetter (letter : Letter) : Following := ⟨.letter letter false, false, false⟩

/-- A piece of an emoji sequence. -/
def ofPiece (piece : Piece) : Following := ⟨.piece piece, false, false⟩

/-- The link that is left when a selector proves to be of no effect: only letters are seen through
one. -/
def letters (s : Following) : Link :=
  match s.link with
  | .letter l j => .letter l j
  | _ => .none

/-- A pictograph selector before the text. -/
def selectPictograph (s : Following) : Following :=
  match s.link with
  | .letter l j => ⟨.letter l j, true, s.asText⟩
  | .piece .joined => ⟨.piece .joined, true, false⟩
  | .piece .keycap => ⟨.piece .keycap, true, false⟩
  | _ => ⟨.none, true, false⟩

/-- A text selector before the text. -/
def selectText (s : Following) : Following :=
  match s.link with
  | .letter l j => ⟨.letter l j, s.asPictograph, true⟩
  | _ => ⟨.none, false, true⟩

end Following

/-- Whether a number lies between two others. -/
def between (low high n : Nat) : Bool := low ≤ n && n ≤ high

/-- The Arabic letters of the shape of an alef. -/
def isAlef (n : Nat) : Bool :=
  between 0x622 0x623 n || n = 0x625 || n = 0x627 || between 0x671 0x673 n || n = 0x675 ||
    between 0x773 0x774 n || between 0x870 0x882 n

/-- The Arabic letters of the shape of a lam. -/
def isLam (n : Nat) : Bool :=
  n = 0x644 || between 0x6b5 0x6b8 n || n = 0x76a || n = 0x8a6 || n = 0x8c7

/-- The Khmer letters that can be written below the line. -/
def isKhmerLetter (n : Nat) : Bool :=
  between 0x1780 0x1782 n || between 0x1784 0x1787 n || between 0x1789 0x178c n ||
    between 0x178e 0x1793 n || between 0x1795 0x1798 n || between 0x179b 0x179d n ||
    n = 0x17a0 || n = 0x17a2 || n = 0x17a7 || between 0x17ab 0x17ac n || n = 0x17af

/-- The consonants of Tifinagh. -/
def isTifinaghConsonant (n : Nat) : Bool := between 0x2d31 0x2d65 n || n = 0x2d6f

/-- The regional indicators, of which two make a flag. -/
def isRegional (n : Nat) : Bool := between 0x1f1e6 0x1f1ff n

/-- The skin tones. -/
def isSkinTone (n : Nat) : Bool := between 0x1f3fb 0x1f3ff n

/-- The marks without an appearance that two joining letters may have between them. -/
def isInvisibleMark (n : Nat) : Bool :=
  n = 0x34f || between 0x17b4 0x17b5 n || between 0x180b 0x180d n || n = 0x180f ||
    between 0xfe00 0xfe0f n || between 0xe0100 0xe01ef n

/-- The width of a character before plain text, and what it is to the character before it. -/
def standAlone (c : Char) : Nat × Following :=
  let n := c.toNat
  if isAlef n then (1, .ofLetter .alef)
  else if n = 0x5dc then (1, .ofLetter .hebrewLamed)
  else if isKhmerLetter n then (1, .ofLetter .khmer)
  else if n = 0x17a4 then (2, .plain)
  else if n = 0x17d8 then (3, .plain)
  else if n = 0x1a10 then (1, .ofLetter .bugineseYa)
  else if isTifinaghConsonant n then (1, .ofLetter .tifinagh)
  else if between 0xa4fc 0xa4fd n then (1, .ofLetter .lisuTone)
  else if n = 0x10c03 then (1, .ofLetter .oldTurkic)
  else if isRegional n then (1, .ofPiece .regional)
  else if isSkinTone n then (2, .ofPiece .skinTone)
  else if pictographRanges.contains c then (2, .ofPiece .pictograph)
  else if zeroWidthRanges.contains c then (0, .plain)
  else if wideRanges.contains c then (2, .plain)
  else (1, .plain)

/-- The width of a character before a letter that it joins with, and what both are together. -/
def joinLetter? (c : Char) (letter : Letter) (joiner : Bool) : Option (Int × Following) :=
  let n := c.toNat
  match letter with
  | .alef =>
    if isLam n then some (0, .plain)
    else if zeroWidthRanges.contains c && !standingRanges.contains c then
      some (0, .ofLetter .alef)
    else none
  | letter =>
    if n = 0x200d then some (0, ⟨.letter letter true, false, false⟩)
    else if isInvisibleMark n then some (0, ⟨.letter letter joiner, false, false⟩)
    else
      match letter with
      | .alef => none
      | .hebrewLamed => if joiner && n = 0x5d0 then some (0, .plain) else none
      | .khmer => if n = 0x17d2 then some (-1, .plain) else none
      | .bugineseYa =>
        if joiner && n = 0x1a17 then some (0, .ofLetter .bugineseVowel) else none
      | .bugineseVowel => if n = 0x1a15 then some (0, .plain) else none
      | .tifinagh =>
        if n = 0x2d7f then some (1, .ofLetter .tifinaghJoiner)
        else if joiner && isTifinaghConsonant n then some (0, .plain)
        else none
      | .tifinaghJoiner => if isTifinaghConsonant n then some (-1, .plain) else none
      | .lisuTone => if between 0xa4f8 0xa4fb n then some (0, .plain) else none
      | .oldTurkic => if joiner && n = 0x10c32 then some (0, .plain) else none

/-- The width of a character before a piece of an emoji sequence that it continues, and what both
are together. -/
def joinPiece? (c : Char) (piece : Piece) : Option (Int × Following) :=
  let n := c.toNat
  let fuse : Option (Int × Following) := if n = 0x200d then some (0, .ofPiece .joined) else none
  match piece with
  | .pictograph => fuse
  | .skinTone => if tonableRanges.contains c then some (0, .ofPiece .pictograph) else fuse
  | .regional => if isRegional n then some (1, .ofPiece .regionals) else none
  | .regionals => if isRegional n then some (1, .ofPiece .regionals) else fuse
  | .oddRegionals => if isRegional n then some (-1, .ofPiece .evenRegionals) else fuse
  | .evenRegionals => if isRegional n then some (3, .ofPiece .oddRegionals) else fuse
  | .joined =>
    if n = 0x20e3 then some (0, .ofPiece .keycap)
    else if isRegional n then some (1, .ofPiece .joinedRegional)
    else if isSkinTone n then some (0, .ofPiece .skinTone)
    else if n = 0xe007f then some (0, .ofPiece (.tagLetters 0))
    else if (standAlone c).2 = .ofPiece .pictograph then some (0, .ofPiece .pictograph)
    else none
  | .joinedRegional => if isRegional n then some (-1, .ofPiece .evenRegionals) else none
  | .keycap => none
  | .tagLetters count =>
    if n = 0x1f3f4 && 3 ≤ count then some (0, .ofPiece .pictograph)
    else if between 0xe0061 0xe007a n && count ≤ 5 then some (0, .ofPiece (.tagLetters (count + 1)))
    else if between 0xe0030 0xe0039 n && count ≤ 4 then some (0, .ofPiece (.tagDigits 1))
    else none
  | .tagDigits count =>
    if n = 0x1f3f4 && count = 3 then some (0, .ofPiece .pictograph)
    else if between 0xe0030 0xe0039 n && count ≤ 2 then some (0, .ofPiece (.tagDigits (count + 1)))
    else none

/-- The width of a character before the link it meets, and what it is to the character before it. A
character that joins with nothing stands alone. -/
def joinLink (c : Char) (link : Link) : Int × Following :=
  let joined? :=
    match link with
    | .none => none
    | .letter l j => joinLetter? c l j
    | .piece p => joinPiece? c p
  joined?.getD ((standAlone c).1, (standAlone c).2)

/-- The width of a character, by what it stands before, and what it is to the character before it.
Selectors are met first; one that the character does not take is passed over. -/
def measure (c : Char) (s : Following) : Int × Following :=
  if s.asPictograph && pictographableRanges.contains c then
    (if s.link = .piece .joined ∨ s.link = .piece .keycap then 0 else 2, .ofPiece .pictograph)
  else
    let s := if s.asPictograph then ⟨s.letters, false, s.asText⟩ else s
    if c.toNat ≤ 0xa0 then (1, .plain)
    else if c.toNat = 0xfe0f then (0, s.selectPictograph)
    else if c.toNat = 0xfe0e then (0, s.selectText)
    else if s.asText && narrowableRanges.contains c then (1, .plain)
    else joinLink c (if s.asText then s.letters else s.link)

/-- The columns of a list of characters, and what they are to a character before them. -/
def columns (cs : List Char) : Int × Following :=
  cs.foldr (fun c after => ((measure c after.2).1 + after.1, (measure c after.2).2)) (0, .plain)

/-- The columns of a text. -/
def displayWidth (s : String) : Nat := (columns s.toList).1.toNat

end Chargeback
