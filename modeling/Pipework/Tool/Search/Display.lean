import Pipework.Regex.Syntax
import Pipework.Tool.Input

set_option autoImplicit false

/-!
How lines that were found are shown: what stands in front of them, and the colors of their parts.

What lines are searched for: patterns one of which has to match, and where in the line.
-/

namespace Pipework.Tool.Search

/-- What makes a line one of those that are looked for. -/
structure Criterion where
  patterns : List Regex
  matching : Regex.Matching := {}
  /-- Whether the other lines are looked for. -/
  inverted : Bool := false
  /-- Whether a match has to be a whole line, or a whole word. -/
  wholeLines : Bool := false
  wholeWords : Bool := false
  deriving DecidableEq, Repr

/-- A match within a line: where it begins, and how long it is. -/
structure Span where
  start : Nat
  length : Nat
  deriving DecidableEq, Repr

namespace Criterion

/-- Whether what lies between a place and its end is no part of a longer word. -/
def isWord (before : Option Char) (last : Regex.Place) : Bool :=
  !before.any Regex.isWordChar && !last.rest.head?.any Regex.isWordChar

/-- The length of the match of a pattern at a place that counts: the longest one, or one that is a whole word. -/
def lengthAt? (criterion : Criterion) (regex : Regex) (before : Option Char) (rest : Text) : Option Nat :=
  let ends := Regex.ends criterion.matching regex { position := 0, before, rest }
  match Regex.farthest ends with
  | none => none
  | some longest =>
    if criterion.wholeLines then if longest.rest.isEmpty && before.isNone then some longest.position else none
    else if !criterion.wholeWords || isWord before longest then some longest.position
    else
      (Regex.farthest (ends.filter fun last => last.position ≠ 0 && isWord before last)).map Regex.Place.position

/-- The longest match of any pattern at a place. -/
def longestAt? (criterion : Criterion) (before : Option Char) (rest : Text) : Option Nat :=
  (criterion.patterns.filterMap fun regex => criterion.lengthAt? regex before rest).max?

/-- The first match behind a place of a line. -/
def findFrom (criterion : Criterion) : Nat → Option Char → Text → Option Span
  | place, before, [] => (criterion.longestAt? before []).map (⟨place, ·⟩)
  | place, before, char :: rest =>
    match criterion.longestAt? before (char :: rest) with
    | some length => some ⟨place, length⟩
    | none => findFrom criterion (place + 1) (some char) rest

/-- Whether a line is one of those that are looked for. -/
def wants (criterion : Criterion) (line : Text) : Bool :=
  (criterion.findFrom 0 none line).isSome != criterion.inverted

/-- The matches behind a place of a line that are not empty. -/
def spansFrom (criterion : Criterion) : Nat → Nat → Option Char → Text → List Span
  | 0, _, _, _ => []
  | fuel + 1, place, before, text =>
    match criterion.findFrom place before text with
    | none => []
    | some span =>
      let size := span.start + max span.length 1 - place
      let passed := text.take size
      let later :=
        if passed.length < size then []
        else spansFrom criterion fuel (place + size) passed.getLast? (text.drop size)
      if span.length = 0 then later else span :: later

/-- The matches in a line that are not empty. -/
def spans (criterion : Criterion) (line : Text) : List Span :=
  criterion.spansFrom (line.length + 1) 0 none line

end Criterion

/-- How patterns are written. -/
inductive Writing where
  | basic
  | extended
  /-- Each stands for itself. -/
  | literal
  deriving DecidableEq, Repr

/-- A text as a regular expression that it matches alone. -/
def literalRegex (text : Text) : Regex :=
  text.foldr (fun char regex => if regex = .empty then .letter char else .both (.letter char) regex) .empty

/-- Whether a pattern is a class of characters without the brackets that it needs. -/
def isBareClass (pattern : Text) : Bool :=
  match pattern with
  | '[' :: mark :: rest =>
    (mark = ':' || mark = '.' || mark = '=') &&
      match rest.findIdx? (· = ']') with
      | some place => (rest.take place).getLast? = some mark
      | none => false
  | _ => false

/-- Whether a set that is such a class occurs in a pattern. -/
def hasBareClass : Text → Bool
  | [] => false
  | '\\' :: _ :: rest => hasBareClass rest
  | '[' :: rest => isBareClass ('[' :: rest)
  | _ :: rest => hasBareClass rest

/-- Reads patterns. -/
def readPatterns (written : Writing) (patterns : List Text) : Work (List Regex) :=
  patterns.mapM fun pattern => do
    let result : Except Regex.Fault (Regex × List Char) :=
      match written with
      | .literal => .ok (literalRegex pattern, [])
      | .extended => Regex.readLeniently pattern
      | .basic => (Regex.read false pattern).map fun (regex, _) => (regex, [])
    match result with
    | .ok (regex, passed) => do
      if written ≠ .literal && hasBareClass pattern then
        Work.complain "character class syntax is [[:space:]], not [:space:]".toList
        Work.leaveWith 2
      passed.forM fun char =>
        let sign : Text := if char = '\x7b' then "\x7b...\x7d".toList else [char]
        Work.complain ("warning: ".toList ++ sign ++ " at start of expression".toList)
      return regex
    | .error fault => do
      Work.complain fault.message.toList
      Work.leaveWith 2

/-- The colors of a terminal for what is shown, as the numbers in its control sequences. -/
structure Palette where
  selectedMatch : Text := "01;31".toList
  contextMatch : Text := "01;31".toList
  selectedLine : Text := []
  contextLine : Text := []
  name : Text := "35".toList
  line : Text := "32".toList
  place : Text := "32".toList
  mark : Text := "36".toList
  /-- Whether lines that match count as context where the others are looked for. -/
  swaps : Bool := false
  /-- Whether the rest of a line of the terminal is cleared with each color. -/
  clears : Bool := true
  deriving DecidableEq, Repr

namespace Palette

/-- Sets the color of a kind of part. -/
def assign (palette : Palette) (kind value : Text) : Palette :=
  match String.ofList kind with
  | "mt" => { palette with selectedMatch := value, contextMatch := value }
  | "ms" => { palette with selectedMatch := value }
  | "mc" => { palette with contextMatch := value }
  | "sl" => { palette with selectedLine := value }
  | "cx" => { palette with contextLine := value }
  | "fn" => { palette with name := value }
  | "ln" => { palette with line := value }
  | "bn" => { palette with place := value }
  | "se" => { palette with mark := value }
  | _ => palette

/-- Takes on what a word alone asks for. -/
def switch (palette : Palette) (kind : Text) : Palette :=
  match String.ofList kind with
  | "rv" => { palette with swaps := true }
  | "ne" => { palette with clears := false }
  | _ => palette

/-- Takes on assignments, between which there are colons, up to the first one that is no assignment. -/
def assignAll (palette : Palette) : List Text → Palette
  | [] => palette
  | entry :: later =>
    let kind := entry.takeWhile (· ≠ '=')
    if kind.length = entry.length then assignAll (palette.switch kind) later
    else
      let value := entry.drop (kind.length + 1)
      if kind.isEmpty || !value.all fun char => char = ';' || isDigit char then palette
      else assignAll (palette.assign kind value) later

/-- A text in a color. -/
def paint (palette : Palette) (color text : Text) : Text :=
  let clearing : Text := if palette.clears then "\x1b[K".toList else []
  if color.isEmpty then text
  else "\x1b[".toList ++ color ++ 'm' :: clearing ++ text ++ "\x1b[m".toList ++ clearing

/-- What begins a color without an end. -/
def start (palette : Palette) (color : Text) : Text :=
  if color.isEmpty then []
  else "\x1b[".toList ++ color ++ 'm' :: (if palette.clears then "\x1b[K".toList else [])

end Palette

/-- How lines are shown. -/
structure Display where
  showsNames : Bool := false
  /-- Whether a character that cannot be in a name stands behind it instead of the usual. -/
  endsNames : Bool := false
  showsLines : Bool := false
  showsPlaces : Bool := false
  /-- Whether the text of lines begins at a stop of the tabulator. -/
  aligned : Bool := false
  onlyMatched : Bool := false
  palette : Option Palette := none
  /-- The character that ends lines. -/
  last : Char := '\n'
  deriving DecidableEq, Repr

/-- A line of a file. -/
structure NumberedLine where
  number : Nat
  /-- How many characters come before it. -/
  place : Nat
  text : Text
  deriving DecidableEq, Repr

/-- Lines with their numbers and places. -/
def numberLines (last : Char) (text : Text) : List NumberedLine :=
  ((splitAfter last text).foldl (fun (found, line, place) piece =>
    ({ number := line, place, text := chompOf last piece : NumberedLine } :: found, line + 1,
      place + piece.length)) (([], 1, 0) : List NumberedLine × Nat × Nat)).1.reverse

namespace Display

/-- A part in its color, if there are colors. -/
def painted (display : Display) (color : Palette → Text) (text : Text) : Text :=
  match display.palette with
  | some palette => palette.paint (color palette) text
  | none => text

/-- The name of a file as it is shown. -/
def shownFile (display : Display) (name : Text) : Text := display.painted Palette.name name

/-- What stands between the name of a file and what follows. -/
def behindName (display : Display) (mark : Char) : Text :=
  if display.endsNames then ['\x00'] else display.painted Palette.mark [mark]

/-- What stands in front of a text, given its length, and the width of numbers. -/
def head (display : Display) (name : Text) (width : Nat) (mark : Char) (line place length : Nat) : Text :=
  let counted (color : Palette → Text) (value : Nat) : Text :=
    display.painted color (padLeft width (number value)) ++ display.painted Palette.mark [mark]
  let parts : Text :=
    (if display.showsNames then display.shownFile name ++ display.behindName mark else []) ++
      (if display.showsLines then counted Palette.line line else []) ++
      (if display.showsPlaces then counted Palette.place place else [])
  if display.aligned && !parts.isEmpty && length ≠ 0 then parts ++ ['\t'] else parts

/-- A line with its matches in their color: `color` is that of the line, and `matchColor` that of the matches. -/
def paintedLine (palette : Palette) (color matchColor : Text) (spans : List Span) (text : Text) : Text :=
  let (shown, place) := spans.foldl (fun (shown, place) span =>
    (shown ++ palette.start color ++ (text.drop place).take (span.start - place) ++
      palette.paint matchColor ((text.drop span.start).take span.length), span.start + span.length))
    (([], 0) : Text × Nat)
  let rest := text.drop place
  shown ++ if rest.isEmpty then [] else palette.paint color rest

/-- A line as it is shown. `selected` holds if it is one of those that are looked for. -/
def shownLine (display : Display) (criterion : Criterion) (name : Text) (width : Nat) (selected : Bool)
    (line : NumberedLine) : Text :=
  let mark := if selected then ':' else '-'
  let isMatching := selected != criterion.inverted
  let matchColor (palette : Palette) : Text :=
    if selected then palette.selectedMatch else palette.contextMatch
  if display.onlyMatched then
    if !isMatching then []
    else
      let mark := if criterion.inverted then '-' else ':'
      (criterion.spans line.text).flatMap fun span =>
        display.head name width mark line.number (line.place + span.start) span.length ++
          display.painted matchColor ((line.text.drop span.start).take span.length) ++ [display.last]
  else
    let text :=
      match display.palette with
      | none => line.text
      | some palette =>
        let isPlain := selected != (criterion.inverted && palette.swaps)
        let color := if isPlain then palette.selectedLine else palette.contextLine
        let spans := if isMatching && !(matchColor palette).isEmpty then criterion.spans line.text else []
        paintedLine palette color (matchColor palette) spans line.text
    display.head name width mark line.number line.place line.text.length ++ text ++ [display.last]

end Display

end Pipework.Tool.Search
