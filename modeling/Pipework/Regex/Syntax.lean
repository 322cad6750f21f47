import Pipework.Regex.Basic

set_option autoImplicit false

/-!
The two ways to write regular expressions. In the extended one, parentheses, braces and the signs for repetition
and choice have their meaning by themselves, and stand for themselves behind a backslash; in the basic one it is
the other way round.
-/

namespace Pipework.Regex

/-- Why a regular expression cannot be read. -/
inductive Fault where
  | openGroup
  | strayGroupEnd
  | openBracket
  | openBrace
  | badBrace
  | badBounds
  | badBracket
  | tooLarge
  | badRange
  | badClass
  | trailingBackslash
  | nothingRepeated
  | badReference
  deriving DecidableEq, Repr

def Fault.message : Fault → String
  | openGroup => "Unmatched ( or \\("
  | strayGroupEnd => "Unmatched ) or \\)"
  | openBracket => "Unmatched [, [^, [:, [., or [="
  | openBrace => "Unmatched \\\x7b"
  | badBrace | badBounds => "Invalid content of \\\x7b\\\x7d"
  | badBracket => "Invalid regular expression"
  | tooLarge => "Regular expression too big"
  | badRange => "Invalid range end"
  | badClass => "Invalid character class name"
  | trailingBackslash => "Trailing backslash"
  | nothingRepeated => "Invalid preceding regular expression"
  | badReference => "Invalid back reference"

/-- The named classes of characters as ranges. -/
def classRanges : List (String × List (Char × Char)) :=
  let lower := ('a', 'z')
  let upper := ('A', 'Z')
  let digit := ('0', '9')
  [("alnum", [lower, upper, digit]), ("alpha", [lower, upper]), ("blank", [(' ', ' '), ('\t', '\t')]),
    ("cntrl", [('\x00', '\x1f'), ('\x7f', '\x7f')]), ("digit", [digit]), ("graph", [('!', '~')]),
    ("lower", [lower]), ("print", [(' ', '~')]),
    ("punct", [('!', '/'), (':', '@'), ('[', '\x60'), ('\x7b', '~')]), ("space", [('\t', '\r'), (' ', ' ')]),
    ("upper", [upper]), ("xdigit", [digit, ('a', 'f'), ('A', 'F')])]

/-- What stands between a mark and its second occurrence before a bracket, and what follows. -/
def untilMark (mark : Char) : Text → Option (Text × Text)
  | [] => none
  | char :: rest =>
    if char = mark && rest.head? = some ']' then some ([], rest.tail)
    else (untilMark mark rest).map fun (inside, after) => (char :: inside, after)

/-- One character in brackets, and what follows. -/
def bracketChar : Text → Except Fault (Char × Text)
  | '[' :: mark :: rest =>
    if mark = '.' || mark = '=' then
      match untilMark mark rest with
      | some ([char], after) => .ok (char, after)
      | some _ => .error .badClass
      | none => .error .openBracket
    else .ok ('[', mark :: rest)
  | char :: rest => .ok (char, rest)
  | [] => .error .openBracket

/-- The ranges of a set in brackets, up to the bracket that closes it. One that comes first closes nothing. -/
def bracketRanges : Nat → Bool → Text → Except Fault (List (Char × Char) × Text)
  | 0, _, _ => .error .openBracket
  | _, _, [] => .error .openBracket
  | fuel + 1, isFirst, text =>
    match text with
    | ']' :: rest =>
      if isFirst then rangeFrom fuel ']' rest else .ok ([], rest)
    | '[' :: ':' :: rest => do
      match untilMark ':' rest with
      | none => .error .openBracket
      | some (name, after) =>
        match classRanges.lookup (String.ofList name) with
        | none => .error .badClass
        | some ranges => do
          let (later, after) ← bracketRanges fuel false after
          return (ranges ++ later, after)
    | _ => do
      let (first, rest) ← bracketChar text
      rangeFrom fuel first rest
where
  /-- A range that begins with a character, or the character alone. -/
  rangeFrom (fuel : Nat) (first : Char) (rest : Text) : Except Fault (List (Char × Char) × Text) := do
    match rest with
    | '-' :: ']' :: after => return ([(first, first), ('-', '-')], after)
    | '-' :: next => do
      let (last, after) ← bracketChar next
      if last < first then .error .badRange
      else
        let (later, after) ← bracketRanges fuel false after
        return ((first, last) :: later, after)
    | _ => do
      let (later, after) ← bracketRanges fuel false rest
      return ((first, first) :: later, after)

/-- A set behind its opening bracket. -/
def bracketSet (text : Text) : Except Fault (Regex × Text) := do
  let (negated, rest) : Bool × Text :=
    match text with
    | '^' :: rest => (true, rest)
    | rest => (false, rest)
  if rest.isEmpty then throw .badBracket
  let (ranges, after) ← bracketRanges (rest.length + 1) true rest
  return (.set negated ranges, after)

/-- A sign of a regular expression. -/
inductive Sign where
  | literal (char : Char)
  | any
  | bracket
  | groupStart
  | groupEnd
  | choice
  | star
  | plus
  | question
  | brace
  | caret
  | dollar
  | edge (edge : RegexEdge)
  | set (negated : Bool) (ranges : List (Char × Char))
  | reference (index : Nat)
  deriving DecidableEq, Repr

/-- The characters of words, as ranges. -/
def wordRanges : List (Char × Char) := [('a', 'z'), ('A', 'Z'), ('0', '9'), ('_', '_')]

/-- The blank characters, as ranges. -/
def spaceRanges : List (Char × Char) := [('\t', '\r'), (' ', ' ')]

/-- What a character means that has a meaning behind a backslash in one of the two ways and by itself in the
other. -/
def operatorSign? : Char → Option Sign
  | '(' => some .groupStart
  | ')' => some .groupEnd
  | '|' => some .choice
  | '+' => some .plus
  | '?' => some .question
  | '\x7b' => some .brace
  | _ => none

/-- What a character means behind a backslash. -/
def escapedSign (extended : Bool) (char : Char) : Sign :=
  match if extended then none else operatorSign? char with
  | some sign => sign
  | none =>
    match char with
    | 'n' => .literal '\n'
    | 't' => .literal '\t'
    | 'f' => .literal '\x0c'
    | 'v' => .literal '\x0b'
    | 'a' => .literal '\x07'
    | 'r' => .literal '\r'
    | 'w' => .set false wordRanges
    | 'W' => .set true wordRanges
    | 's' => .set false spaceRanges
    | 'S' => .set true spaceRanges
    | '<' => .edge .wordStart
    | '>' => .edge .wordEnd
    | 'b' => .edge .wordEdge
    | 'B' => .edge .noWordEdge
    | '\x60' => .edge .textStart
    | '\x27' => .edge .textEnd
    | char => if '1' ≤ char && char ≤ '9' then .reference (char.toNat - '0'.toNat) else .literal char

/-- The next sign, and what follows. -/
def nextSign (extended : Bool) : Text → Except Fault (Option (Sign × Text))
  | [] => .ok none
  | ['\\'] => .error .trailingBackslash
  | '\\' :: char :: rest => .ok (some (escapedSign extended char, rest))
  | char :: rest =>
    let sign : Sign :=
      match char with
      | '.' => .any
      | '[' => .bracket
      | '*' => .star
      | '^' => .caret
      | '$' => .dollar
      | char => if extended then (operatorSign? char).getD (.literal char) else .literal char
    .ok (some (sign, rest))

/-- Whether nothing of the present choice follows. -/
def endsChoice (extended : Bool) (text : Text) : Bool :=
  match nextSign extended text with
  | .ok none => true
  | .ok (some (sign, _)) => sign = .groupEnd || sign = .choice
  | .error _ => false

/-- What stands before a closing brace, and what follows it. -/
def untilBrace (extended : Bool) : Text → Option (Text × Text)
  | [] => none
  | '\x7d' :: rest =>
    if extended then some ([], rest)
    else (untilBrace extended rest).map fun (inside, after) => ('\x7d' :: inside, after)
  | '\\' :: '\x7d' :: rest =>
    if extended then none else some ([], rest)
  | char :: rest => (untilBrace extended rest).map fun (inside, after) => (char :: inside, after)

/-- The largest number that braces may hold. -/
def largestBound : Nat := 32767

/-- The numbers in braces, and what follows. -/
def braceBounds (extended : Bool) (text : Text) : Except Fault ((Nat × Option Nat) × Text) :=
  let number (digits : Text) : Nat :=
    digits.foldl (fun value char => value * 10 + (char.toNat - '0'.toNat)) 0
  match untilBrace extended text with
  | none => .error .openBrace
  | some (inside, after) =>
    let least := inside.takeWhile Char.isDigit
    let bounds (most : Option Nat) : Except Fault ((Nat × Option Nat) × Text) :=
      if most.any (· < number least) then .error .badBounds
      else if largestBound < most.getD (number least) then .error .tooLarge
      else .ok ((number least, most), after)
    match inside.drop least.length with
    | [] => if least.isEmpty then .error .badBrace else bounds (some (number least))
    | ',' :: most =>
      if !most.all Char.isDigit then .error .badBrace
      else bounds (if most.isEmpty then none else some (number most))
    | _ => .error .badBrace

/-- What was read of a regular expression: the rest of the text, and how many groups there are. -/
structure Reading where
  rest : Text
  groups : Nat := 0
  /-- Whether a brace that begins no numbers stands for itself, and a repetition of nothing is passed over. -/
  lenient : Bool := false
  /-- Whether a repetition may not be repeated by a star or by numbers. -/
  repeatsOnce : Bool := false
  /-- How many groups are open. -/
  depth : Nat := 0
  /-- Whether no edge may be repeated. -/
  anchorsAlone : Bool := false
  /-- The signs that were passed over, the last one first. -/
  passed : List Char := []

/-- Whether a brace stands for itself. -/
def Reading.hasPlainBrace (reading : Reading) (extended : Bool) (rest : Text) : Bool :=
  reading.lenient &&
    match braceBounds extended rest with
    | .error .openBrace | .error .badBrace => true
    | _ => false

/-- Reads the repetitions behind a regular expression. -/
def readRepeats (extended : Bool) : Nat → Regex → Reading → Except Fault (Regex × Reading)
  | 0, regex, reading => .ok (regex, reading)
  | fuel + 1, regex, reading => do
    let repeated (least : Nat) (most : Option Nat) (rest : Text) : Except Fault (Regex × Reading) := do
      if reading.repeatsOnce then
        match ← nextSign extended rest with
        | some (.star, _) | some (.brace, _) => throw .nothingRepeated
        | _ => pure ()
      readRepeats extended fuel (.repeated regex least most) { reading with rest }
    match ← nextSign extended reading.rest with
    | some (.star, rest) => repeated 0 none rest
    | some (.plus, rest) => repeated 1 none rest
    | some (.question, rest) => repeated 0 (some 1) rest
    | some (.brace, rest) => do
      if reading.hasPlainBrace extended rest then return (regex, reading)
      else
        let ((least, most), rest) ← braceBounds extended rest
        repeated least most rest
    | _ => return (regex, reading)

/-- Notes a repetition that comes first. -/
def Reading.notePassed (extended : Bool) (reading : Reading) : Reading :=
  let note (char : Char) : Reading := { reading with passed := char :: reading.passed }
  match nextSign extended reading.rest with
  | .ok (some (.star, _)) => note '*'
  | .ok (some (.plus, _)) => note '+'
  | .ok (some (.question, _)) => note '?'
  | .ok (some (.brace, rest)) => if reading.hasPlainBrace extended rest then reading else note '\x7b'
  | _ => reading

mutual

/-- Reads choices. -/
def readChoices (extended : Bool) : Nat → Reading → Except Fault (Regex × Reading)
  | 0, _ => .error .openGroup
  | fuel + 1, reading => do
    let (first, reading) ← readSequence extended fuel true reading
    match ← nextSign extended reading.rest with
    | some (.choice, rest) => do
      let (second, reading) ← readChoices extended fuel { reading with rest }
      return (.either first second, reading)
    | _ => return (first, reading)

/-- Reads regular expressions one after the other; `isFirst` holds at the start of a choice. -/
def readSequence (extended : Bool) : Nat → Bool → Reading → Except Fault (Regex × Reading)
  | 0, _, _ => .error .openGroup
  | fuel + 1, isFirst, reading => do
    let text := reading.rest
    let isPlainEnd := reading.lenient && reading.depth = 0 && text.head? = some ')'
    if endsChoice extended text && !isPlainEnd then return (.empty, reading)
    else
      match ← nextSign extended text with
      | none => return (.empty, reading)
      | some (sign, rest) => do
        let sign := if isPlainEnd then .literal ')' else sign
        let (atom, reading) ← readAtom extended fuel isFirst sign { reading with rest }
        let isEdge : Bool :=
          match atom with
          | .edge _ => true
          | _ => false
        let reading := if reading.lenient && isEdge && isFirst then reading.notePassed extended else reading
        let (atom, reading) ←
          if isEdge && (reading.anchorsAlone || (isFirst && !extended)) then pure (atom, reading)
          else readRepeats extended (reading.rest.length + 1) atom reading
        let (later, reading) ← readSequence extended fuel (isEdge && (isFirst || reading.anchorsAlone)) reading
        return (if later = .empty then atom else .both atom later, reading)

/-- Reads what a sign begins. -/
def readAtom (extended : Bool) : Nat → Bool → Sign → Reading → Except Fault (Regex × Reading)
  | 0, _, _, _ => .error .openGroup
  | fuel + 1, isFirst, sign, reading => do
    let pass (char : Char) (reading : Reading) : Except Fault (Regex × Reading) := do
      if !reading.lenient then throw .nothingRepeated
      let reading := { reading with passed := char :: reading.passed }
      match ← nextSign extended reading.rest with
      | none | some (.choice, _) => return (.empty, reading)
      | some (.groupEnd, rest) => return (.letter ')', { reading with rest })
      | some (sign, rest) => readAtom extended fuel isFirst sign { reading with rest }
    match sign with
    | .literal char => return (.letter char, reading)
    | .any => return (.any, reading)
    | .edge kind => return (.edge kind, reading)
    | .set isNegated ranges => return (.set isNegated ranges, reading)
    | .bracket => do
      let (charSet, rest) ← bracketSet reading.rest
      return (charSet, { reading with rest })
    | .caret =>
      return (if extended || isFirst then .edge .lineStart else .letter '^', reading)
    | .dollar =>
      return (if extended || endsChoice false reading.rest then .edge .lineEnd else .letter '$', reading)
    | .star => if extended then pass '*' reading else return (.letter '*', reading)
    | .plus => if extended then pass '+' reading else return (.letter '+', reading)
    | .question => if extended then pass '?' reading else return (.letter '?', reading)
    | .brace =>
      if reading.hasPlainBrace extended reading.rest || !(extended || reading.repeatsOnce) then
        return (.letter '\x7b', reading)
      else if reading.lenient then do
        let (_, rest) ← braceBounds extended reading.rest
        pass '\x7b' { reading with rest }
      else throw .nothingRepeated
    | .reference index =>
      if index ≤ reading.groups then return (.same index, reading) else .error .badReference
    | .groupStart => do
      let index := reading.groups + 1
      let (inner, reading) ← readChoices extended fuel { reading with groups := index, depth := reading.depth + 1 }
      match ← nextSign extended reading.rest with
      | some (.groupEnd, rest) => return (.group index inner, { reading with rest, depth := reading.depth - 1 })
      | _ => .error .openGroup
    | .groupEnd | .choice => return (.empty, reading)

end

/-- Reads all of a text. -/
def readAll (extended : Bool) (reading : Reading) : Except Fault (Regex × Reading) := do
  let (regex, reading) ← readChoices extended (3 * reading.rest.length + 3) reading
  if reading.rest.isEmpty then return (regex, reading) else .error .strayGroupEnd

/-- Reads a regular expression. Also gives the number of its groups. -/
def read (extended : Bool) (text : Text) : Except Fault (Regex × Nat) :=
  (readAll extended { rest := text }).map fun (regex, reading) => (regex, reading.groups)

/-- Reads a regular expression in which, written in the basic way, no repetition is repeated by a star or by
numbers. Also gives the number of its groups. -/
def readStrictly (extended : Bool) (text : Text) : Except Fault (Regex × Nat) :=
  (readAll extended { rest := text, repeatsOnce := !extended, anchorsAlone := true }).map fun (regex, reading) => (regex, reading.groups)

/-- Reads an extended regular expression leniently. Also gives the signs that were passed over. -/
def readLeniently (text : Text) : Except Fault (Regex × List Char) :=
  (readAll true { rest := text, lenient := true }).map fun (regex, reading) => (regex, reading.passed.reverse)

end Pipework.Regex
