import Pipework.Text.Grapheme
import Pipework.Text.LetterCase
import Pipework.Text.Width

set_option autoImplicit false

/-!
Drafts: lines that are being typed, with a cursor. Movements go by graphemes, by words or by lines; a draft
has several lines only if line feeds were put into it by other means than the enter key.
-/

namespace Pipework.Editor

/-- A line that is being typed. -/
structure Draft where
  /-- What stands before the cursor. -/
  before : List Char := []
  after : List Char := []
  deriving DecidableEq, Repr

/-- What a word is. -/
inductive WordKind where
  /-- Letters and numbers. -/
  | plain
  /-- Whatever stands between blanks. -/
  | big
  deriving DecidableEq, Repr

/-- Whether a grapheme is part of words. -/
def WordKind.has : WordKind → List Char → Bool
  | plain, grapheme => grapheme.all (Text.inRanges Text.alphanumeric)
  | big, grapheme => !grapheme.any (Text.inRanges Text.whiteSpace)

namespace Draft

/-- The whole line. -/
def text (draft : Draft) : List Char := draft.before ++ draft.after

/-- Where the cursor stands. -/
def cursor (draft : Draft) : Nat := draft.before.length

def isEmpty (draft : Draft) : Bool := draft.before.isEmpty && draft.after.isEmpty

/-- A text with the cursor at a place. -/
def make (text : List Char) (cursor : Nat) : Draft := ⟨text.take cursor, text.drop cursor⟩

/-- The text between two places. -/
def slice (draft : Draft) (first last : Nat) : List Char := (draft.text.take last).drop first

/-- Moves the cursor to a place. -/
def moveTo (draft : Draft) (cursor : Nat) : Draft := make draft.text cursor

/-- How many characters the first `count` graphemes of a text have. -/
def sizeOfFirst (count : Nat) (text : List Char) : Nat :=
  ((Text.Grapheme.split text).take count).flatten.length

/-- How many characters the last `count` graphemes of a text have. -/
def sizeOfLast (count : Nat) (text : List Char) : Nat :=
  let graphemes := Text.Grapheme.split text
  (graphemes.drop (graphemes.length - count)).flatten.length

/-- The place so many graphemes before the cursor. -/
def backward (draft : Draft) (count : Nat) : Nat := draft.cursor - sizeOfLast count draft.before

/-- The place so many graphemes behind the cursor. -/
def forward (draft : Draft) (count : Nat) : Nat := draft.cursor + sizeOfFirst count draft.after

/-- How many characters before the last line feed of a text, if it has one. -/
def lastLineFeed? (text : List Char) : Option Nat :=
  match text.reverse.dropWhile (· != '\n') with
  | [] => none
  | _ :: before => some before.length

/-- Where the line of the cursor begins. -/
def lineStart (draft : Draft) : Nat := ((lastLineFeed? draft.before).map (· + 1)).getD 0

/-- Where the line of the cursor ends. -/
def lineEnd (draft : Draft) : Nat := draft.cursor + (draft.after.takeWhile (· != '\n')).length

/-- How many characters of the reversed graphemes come before the start of a word, seen from their end. -/
def wordStart (kind : WordKind) : List (List Char) → Option (List (List Char))
  | later :: earlier :: rest =>
    if !kind.has earlier && kind.has later then some (earlier :: rest) else wordStart kind (earlier :: rest)
  | _ => none

/-- The start of the word so many words back; the given graphemes stand before the cursor, in reverse
order. -/
def wordsBack (kind : WordKind) : Nat → List (List Char) → Nat
  | 0, graphemes => graphemes.flatten.length
  | count + 1, graphemes =>
    match wordStart kind graphemes with
    | none => 0
    | some graphemes => wordsBack kind count graphemes

/-- The place so many words before the cursor. -/
def wordBackward (draft : Draft) (kind : WordKind) (count : Nat) : Nat :=
  wordsBack kind count (Text.Grapheme.split draft.before).reverse

/-- The graphemes from the end of the next word on, and how many characters come before it. -/
def wordEnd (kind : WordKind) (passed : Nat) : List (List Char) → Option (Nat × List (List Char))
  | first :: second :: rest =>
    if kind.has first && !kind.has second then some (passed + first.length, second :: rest)
    else wordEnd kind (passed + first.length) (second :: rest)
  | _ => none

/-- How many characters come before the end of the word so many words on, if that end is not the end of
the text. After each word one grapheme is passed over. -/
def wordsOn (kind : WordKind) : Nat → Nat → List (List Char) → Option Nat
  | 0, _, _ => none
  | count + 1, passed, graphemes =>
    match wordEnd kind passed graphemes with
    | none => none
    | some (found, rest) =>
      if count = 0 then some found
      else wordsOn kind count (found + (rest.headD []).length) rest.tail

/-- The end of the word so many words on from a place. -/
def wordForwardFrom (draft : Draft) (place : Nat) (kind : WordKind) (count : Nat) : Nat :=
  match wordsOn kind count 0 (Text.Grapheme.split (draft.text.drop place)) with
  | some size => place + size
  | none => draft.text.length

/-- The end of the word so many words behind the cursor. -/
def wordForward (draft : Draft) (kind : WordKind) (count : Nat) : Nat :=
  draft.wordForwardFrom draft.cursor kind count

/-- The place before the last of `count` occurrences of a character before the cursor. -/
def searchBackward? (draft : Draft) (char : Char) (count : Nat) : Option Nat :=
  let places := (List.range draft.cursor).reverse.filter fun place => draft.before[place]? = some char
  (places.take count).getLast?

/-- The place just before the last of `count` occurrences of a character behind the grapheme at the
cursor, less one character. -/
def searchForward? (draft : Draft) (char : Char) (count : Nat) : Option Nat :=
  let shift := sizeOfFirst 1 draft.after
  let rest := draft.after.drop shift
  if shift = 0 then none
  else
    let places := (List.range rest.length).filter fun place => rest[place]? = some char
    ((places.take count).getLast?).map fun place => draft.cursor + shift + place - 1

/-- The start and the end of the line so many lines above the one that ends at a place. -/
def lineAbove (draft : Draft) : Nat → Nat → Nat × Nat
  | 0, feed => (((lastLineFeed? (draft.text.take feed)).map (· + 1)).getD 0, feed)
  | count + 1, feed =>
    match lastLineFeed? (draft.text.take feed) with
    | none => (0, feed)
    | some earlier => lineAbove draft count earlier

/-- The start and the end of the line so many lines below the one that starts at a place. -/
def lineBelow (draft : Draft) : Nat → Nat → Nat × Nat
  | count, start =>
    let last := start + ((draft.text.drop start).takeWhile (· != '\n')).length
    match count with
    | 0 => (start, last)
    | count + 1 => if last = draft.text.length then (start, last) else lineBelow draft count (last + 1)

/-- Moves to the same column of the line so many lines above, if there is one above, counting a column for
each grapheme there. The first line begins behind a prompt, which counts for the line directly above. -/
def lineUp? (draft : Draft) (rule : Text.WidthRule) (promptWidth count : Nat) : Option Draft :=
  (lastLineFeed? draft.before).map fun feed =>
    let column := rule.width (draft.before.drop (feed + 1))
    let column := column - (if (draft.lineAbove 0 feed).1 = 0 then promptWidth else 0)
    let (start, last) := draft.lineAbove (count - 1) feed
    let line := draft.slice start last
    if column < (Text.Grapheme.split line).length then draft.moveTo (start + sizeOfFirst column line)
    else draft.moveTo feed

/-- Moves to the same column of the line so many lines below, if there is one below, counting a column for
each grapheme there. -/
def lineDown? (draft : Draft) (rule : Text.WidthRule) (promptWidth count : Nat) : Option Draft :=
  if !draft.after.contains '\n' then none
  else
    let start := draft.lineStart
    let column := rule.width (draft.before.drop start) + (if start = 0 then promptWidth else 0)
    let (first, last) := draft.lineBelow (count - 1) (draft.lineEnd + 1)
    some (draft.moveTo (first + sizeOfFirst column (draft.slice first last)))

/-- The place of the first grapheme of letters and numbers from the cursor on, if there is one. -/
def nextWordStart? (draft : Draft) : Option Nat :=
  let graphemes := Text.Grapheme.split draft.after
  let skipped := graphemes.takeWhile (! WordKind.plain.has ·)
  if skipped.length = graphemes.length then none
  else some (draft.cursor + skipped.flatten.length)

/-- Puts a text in at a place and the cursor behind it. -/
def insertAt (draft : Draft) (place : Nat) (text : List Char) : Draft :=
  make (draft.text.take place ++ text ++ draft.text.drop place) (place + text.length)

/-- Takes the text between two places out; the cursor is left where it stood. -/
def remove (draft : Draft) (first last : Nat) : Draft :=
  make (draft.text.take first ++ draft.text.drop last) first

end Draft

end Pipework.Editor
