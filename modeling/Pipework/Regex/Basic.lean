import Pipework.Bytes

set_option autoImplicit false

/-!
Regular expressions and what they match. A match begins as early as possible, and among those that begin there
it is the longest. Groups remember what they matched last.
-/

namespace Pipework

/-- Where a regular expression may match nothing. -/
inductive RegexEdge where
  | textStart
  | textEnd
  /-- The start or the end of the text, or of a line of it if lines count. -/
  | lineStart
  | lineEnd
  /-- Before the first or behind the last character of a word. -/
  | wordStart
  | wordEnd
  /-- One of the two, or neither. -/
  | wordEdge
  | noWordEdge
  deriving DecidableEq, Repr

/-- A regular expression. -/
inductive Regex where
  | empty
  | letter (char : Char)
  | any
  /-- A character that is in one of some ranges, or in none. -/
  | set (negated : Bool) (ranges : List (Char × Char))
  | edge (edge : RegexEdge)
  | group (index : Nat) (inner : Regex)
  /-- What a group matched. -/
  | same (index : Nat)
  | both (first second : Regex)
  | either (first second : Regex)
  | repeated (inner : Regex) (least : Nat) (most : Option Nat)
  deriving DecidableEq, Repr

namespace Regex

/-- A place in a text, with what groups have matched before it. -/
structure Place where
  position : Nat
  before : Option Char
  rest : Text
  groups : List (Nat × Text) := []

namespace Place

/-- The place behind the next characters. -/
def advance (place : Place) (count : Nat) : Place :=
  match count with
  | 0 => place
  | _ =>
    { place with
      position := place.position + count
      before := place.rest[count - 1]?
      rest := place.rest.drop count }

def sameAs (left right : Place) : Bool :=
  left.position = right.position && left.groups = right.groups

/-- Notes what a group matched. -/
def note (place : Place) (index : Nat) (text : Text) : Place :=
  { place with groups := (index, text) :: place.groups.filter (·.1 != index) }

/-- Places without those that come twice. -/
def distinct (places : List Place) : List Place :=
  (places.foldl (fun kept place => if kept.any (sameAs place) then kept else place :: kept) []).reverse

end Place

/-- Whether a character belongs to a word. -/
def isWordChar (char : Char) : Bool := char.isAlphanum || char = '_'

/-- How a regular expression is matched. -/
structure Matching where
  /-- Whether the case of letters does not count. -/
  foldCase : Bool := false
  /-- Whether lines within a text have starts and ends. -/
  byLine : Bool := false
  /-- The character between such lines. -/
  lineBreak : Char := '\n'
  deriving DecidableEq, Repr

/-- Whether there is such an edge at a place. -/
def holdsAt (matching : Matching) (edge : RegexEdge) (place : Place) : Bool :=
  let before := place.before.any isWordChar
  let after := place.rest.head?.any isWordChar
  match edge with
  | .textStart => place.before.isNone
  | .textEnd => place.rest.isEmpty
  | .lineStart => place.before.isNone || (matching.byLine && place.before = some matching.lineBreak)
  | .lineEnd => place.rest.isEmpty || (matching.byLine && place.rest.head? = some matching.lineBreak)
  | .wordStart => !before && after
  | .wordEnd => before && !after
  | .wordEdge => before != after
  | .noWordEdge => before = after

/-- Whether two characters are the same, or differ in case alone if that does not count. -/
def sameChar (foldCase : Bool) (left right : Char) : Bool :=
  left = right || (foldCase && left.toUpper = right.toUpper)

/-- Whether a character is in one of some ranges. -/
def inRanges (foldCase : Bool) (ranges : List (Char × Char)) (char : Char) : Bool :=
  let isIn (char : Char) : Bool := ranges.any fun (first, last) => first ≤ char && char ≤ last
  isIn char || (foldCase && (isIn char.toUpper || isIn char.toLower))

/-- The places behind repetitions of a step, the longest first. -/
def repeatStep (step : Place → List Place) : Nat → Nat → Option Nat → Place → List Place
  | 0, least, _, place => if least = 0 then [place] else []
  | fuel + 1, least, most, place =>
    if most = some 0 then [place]
    else
      let moved := (step place).filter fun next => place.position < next.position || 0 < least
      let further := moved.flatMap (repeatStep step fuel (least - 1) (most.map (· - 1)))
      if least = 0 then further ++ [place] else further

/-- The place behind the next character, if it is as wanted. -/
def stepOver (isWanted : Char → Bool) (place : Place) : List Place :=
  match place.rest with
  | next :: _ => if isWanted next then [place.advance 1] else []
  | [] => []

/-- The places at which a match that begins at a place may end. -/
def ends (matching : Matching) : Regex → Place → List Place
  | .empty, place => [place]
  | .letter wanted, place => stepOver (sameChar matching.foldCase wanted) place
  | .any, place => stepOver (fun _ => true) place
  | .set negated ranges, place => stepOver (fun char => inRanges matching.foldCase ranges char != negated) place
  | .edge kind, place => if holdsAt matching kind place then [place] else []
  | .group index inner, place =>
    (ends matching inner place).map fun after =>
      after.note index (place.rest.take (after.position - place.position))
  | .same index, place =>
    match place.groups.lookup index with
    | none => []
    | some text =>
      let next := place.rest.take text.length
      let isSame := next.length = text.length &&
        (next.zip text).all fun (left, right) => sameChar matching.foldCase left right
      if isSame then [place.advance text.length] else []
  | .both first second, place =>
    match ends matching first place with
    | [only] => ends matching second only
    | places => Place.distinct (places.flatMap (ends matching second))
  | .either first second, place => ends matching first place ++ ends matching second place
  | .repeated inner least most, place =>
    let places :=
      repeatStep (ends matching inner) (place.rest.length + least + 1) least most place
    match inner with
    | .letter _ | .any | .set _ _ => places
    | _ => Place.distinct places

/-- A match in a text: what comes before it, what is matched, and what comes after. -/
structure Found where
  before : Text
  matched : Text
  after : Text
  groups : List (Nat × Text)

/-- The longest of some places, and the first of those that are equally far. -/
def farthest : List Place → Option Place
  | [] => none
  | place :: later =>
    match farthest later with
    | none => some place
    | some other => if place.position < other.position then some other else some place

/-- The longest match that begins at a place; the text before the place is given in reverse order. -/
def matchAt (regex : Regex) (matching : Matching) (passed : Text) (before : Option Char) (rest : Text) :
    Option Found :=
  (farthest (ends matching regex { position := 0, before, rest })).map fun last =>
    { before := passed.reverse
      matched := rest.take last.position
      after := last.rest
      groups := last.groups }

/-- The first match that begins at a place or behind it. -/
def search (regex : Regex) (matching : Matching) : Text → Option Char → Text → Option Found
  | passed, before, [] => regex.matchAt matching passed before []
  | passed, before, next :: later =>
    match regex.matchAt matching passed before (next :: later) with
    | some found => some found
    | none => search regex matching (next :: passed) (some next) later

/-- The first match in a text; what comes in front of the text may be given. -/
def find? (regex : Regex) (matching : Matching) (before : Option Char) (text : Text) : Option Found :=
  regex.search matching [] before text

/-- Whether something in a text matches. -/
def occursIn (regex : Regex) (matching : Matching) (text : Text) : Bool :=
  (regex.find? matching none text).isSome

end Regex

end Pipework
