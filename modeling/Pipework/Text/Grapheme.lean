import Pipework.Text.Properties

set_option autoImplicit false

/-!
Graphemes: what a reader takes for one character may be several, such as a letter with its accents, the
parts of a syllable, or a picture put together from others. `Grapheme.split` divides a text between them.
-/

namespace Pipework.Text

/-- How a character joins with its neighbours. -/
inductive BreakClass where
  | carriageReturn
  | lineFeed
  | control
  | extend
  | joiner
  | regional
  | prepended
  | spacing
  | leading
  | vowel
  | trailing
  | openSyllable
  | closedSyllable
  | other
  deriving DecidableEq, Repr

/-- Vowel signs of Kirat Rai, which join like those of Hangul. -/
def joiningVowel : List CharRange := [(0x16d63, 0x16d63), (0x16d67, 0x16d6a)]

/-- The class of a character. -/
def BreakClass.ofChar (char : Char) : BreakClass :=
  let code := char.toNat
  let within (first last : Nat) : Bool := first ≤ code && code ≤ last
  if char = '\r' then carriageReturn
  else if char = '\n' then lineFeed
  else if within 0x20 0x7e then other
  else if code = 0x200d then joiner
  else if inRanges controlChar char then control
  else if inRanges graphemeExtend char || within 0x1f3fb 0x1f3ff then extend
  else if within 0x1f1e6 0x1f1ff then regional
  else if within 0x1100 0x115f || within 0xa960 0xa97c then leading
  else if within 0x1160 0x11a7 || within 0xd7b0 0xd7c6 || inRanges joiningVowel char then vowel
  else if within 0x11a8 0x11ff || within 0xd7cb 0xd7fb then trailing
  else if within 0xac00 0xd7a3 then
    if (code - 0xac00) % 28 = 0 then openSyllable else closedSyllable
  else if inRanges prependedMark char then prepended
  else if inRanges spacingMark char then spacing
  else other

/-- Forbids two letters to join. -/
def nonJoiner : Char := '\u200c'

namespace Grapheme

/-- What of a grapheme decides whether it goes on. -/
structure Seen where
  last : BreakClass
  /-- Whether an odd number of regional signs stands at its end. -/
  oddRegional : Bool
  /-- Whether it ends in a picture with its extensions. -/
  picture : Bool
  /-- Whether it ends in a picture, its extensions and a joiner. -/
  joinedPicture : Bool
  /-- Whether it ends in a consonant with its extensions. -/
  consonant : Bool
  /-- Whether one of these extensions is a linker. -/
  linked : Bool

/-- A grapheme of one character. -/
def Seen.ofChar (char : Char) : Seen where
  last := BreakClass.ofChar char
  oddRegional := BreakClass.ofChar char = .regional
  picture := inRanges pictographic char
  joinedPicture := false
  consonant := inRanges conjunctConsonant char
  linked := false

/-- Whether a character belongs to the grapheme before it. -/
def Seen.joins (seen : Seen) (char : Char) : Bool :=
  match seen.last, BreakClass.ofChar char with
  | .carriageReturn, .lineFeed => true
  | .carriageReturn, _ | .lineFeed, _ | .control, _ => false
  | _, .carriageReturn | _, .lineFeed | _, .control => false
  | _, .extend | _, .joiner | _, .spacing => true
  | .prepended, _ => true
  | .leading, .leading | .leading, .vowel | .leading, .openSyllable | .leading, .closedSyllable => true
  | .openSyllable, .vowel | .openSyllable, .trailing | .vowel, .vowel | .vowel, .trailing => true
  | .closedSyllable, .trailing | .trailing, .trailing => true
  | .regional, .regional => seen.oddRegional
  | _, _ =>
    (seen.joinedPicture && inRanges pictographic char) ||
      (seen.linked && inRanges conjunctConsonant char)

/-- A grapheme with one more character. -/
def Seen.add (seen : Seen) (char : Char) : Seen :=
  let kind := BreakClass.ofChar char
  let continues := (kind = .extend && char ≠ nonJoiner) || kind = .joiner
  { last := kind
    oddRegional := kind = .regional && !seen.oddRegional
    picture := inRanges pictographic char || (seen.picture && kind = .extend)
    joinedPicture := seen.picture && kind = .joiner
    consonant := inRanges conjunctConsonant char || (seen.consonant && continues)
    linked := seen.consonant && continues && (seen.linked || inRanges conjunctLinker char) }

/-- Divides what follows a grapheme of which something is known and whose characters, in reverse order,
are given. -/
def splitAfter (seen : Seen) (reversed : List Char) : List Char → List (List Char)
  | [] => [reversed.reverse]
  | char :: rest =>
    if seen.joins char then splitAfter (seen.add char) (char :: reversed) rest
    else reversed.reverse :: splitAfter (.ofChar char) [char] rest

/-- The graphemes of a text. -/
def split : List Char → List (List Char)
  | [] => []
  | char :: rest => splitAfter (.ofChar char) [char] rest

/-- How many bytes the characters take. -/
def size (chars : List Char) : Nat := chars.foldl (fun total c => total + c.utf8Size) 0

/-- Takes so many bytes off the end of a text in reverse order. -/
def dropBytes : Nat → List Char → List Char
  | _, [] => []
  | count, char :: before =>
    if count < char.utf8Size then char :: before else dropBytes (count - char.utf8Size) before

/-- Lets backspaces take away the graphemes before them. The text so far is in reverse order, with the
sizes of its graphemes; sizes are kept in one byte. -/
def eraseFrom : List Char → List Nat → List (List Char) → List Char
  | text, _, [] => text.reverse
  | text, sizes, grapheme :: later =>
    if grapheme = ['\x08'] then
      match sizes with
      | [] => eraseFrom text [] later
      | last :: before => eraseFrom (dropBytes last text) before later
    else eraseFrom (grapheme.reverse ++ text) (size grapheme % 256 :: sizes) later

/-- A text with its backspaces carried out. -/
def applyBackspaces (text : List Char) : List Char :=
  if text.contains '\x08' then eraseFrom [] [] (split text) else text

end Grapheme

end Pipework.Text
