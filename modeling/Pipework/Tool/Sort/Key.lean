import Pipework.Digest
import Pipework.Tool.Quantity
import Pipework.Tool.Sort.Order

set_option autoImplicit false

/-!
Sort keys: parts of lines, and how they are compared.
-/

namespace Pipework.Tool

/-- Which characters do not count. -/
inductive IgnoredChars where
  /-- All but letters, digits and blanks. -/
  | outsideWords
  /-- Those that cannot be seen. -/
  | invisible
  deriving DecidableEq, Repr

/-- How keys are compared. Of the orders only one may be chosen, but it takes all options to find out. -/
structure KeyStyle where
  /-- Whether blanks at the start of the first field do not belong to the key. -/
  skipStart : Bool := false
  /-- Whether blanks at the start of the last field do not count where the key ends in it. -/
  skipEnd : Bool := false
  ignored : Option IgnoredChars := none
  /-- Whether small letters count as capitals. -/
  foldCase : Bool := false
  general : Bool := false
  size : Bool := false
  month : Bool := false
  number : Bool := false
  random : Bool := false
  reversed : Bool := false
  version : Bool := false
  deriving DecidableEq, Repr

namespace KeyStyle

/-- Whether keys are compared by the numbers that they begin with. -/
def isNumeric (style : KeyStyle) : Bool := style.number || style.general || style.size

/-- Whether nothing but the direction is chosen. -/
def isPlain (style : KeyStyle) : Bool := { style with reversed := false } = {}

/-- Takes on a letter; `atStart` and `atEnd` tell on which side of a key it stands. -/
def addLetter (style : KeyStyle) (atStart atEnd : Bool) (letter : Char) : Option KeyStyle :=
  match letter with
  | 'b' =>
    some { style with
      skipStart := style.skipStart || atStart
      skipEnd := style.skipEnd || atEnd }
  | 'd' => some { style with ignored := some .outsideWords }
  | 'f' => some { style with foldCase := true }
  | 'g' => some { style with general := true }
  | 'h' => some { style with size := true }
  | 'i' => some { style with ignored := some (style.ignored.getD .invisible) }
  | 'M' => some { style with month := true }
  | 'n' => some { style with number := true }
  | 'R' => some { style with random := true }
  | 'r' => some { style with reversed := true }
  | 'V' => some { style with version := true }
  | _ => none

/-- The letters that ask for the style. -/
def letters (style : KeyStyle) : Text :=
  [(style.skipStart || style.skipEnd, 'b'), (style.ignored = some .outsideWords, 'd'), (style.foldCase, 'f'),
    (style.general, 'g'), (style.size, 'h'), (style.ignored = some .invisible, 'i'), (style.month, 'M'),
    (style.number, 'n'), (style.random, 'R'), (style.reversed, 'r'), (style.version, 'V')].filterMap
    fun (holds, letter) => if holds then some letter else none

/-- Whether no two orders were chosen at once. -/
def isConsistent (style : KeyStyle) : Bool :=
  let orders := [style.number, style.general, style.size, style.month,
    style.version || style.random || style.ignored.isSome]
  (orders.filter id).length ≤ 1

/-- What counts of a text. -/
def relevant (style : KeyStyle) (text : Text) : Text :=
  let isLetter (char : Char) : Bool := isLower char || isUpper char
  let text :=
    match style.ignored with
    | some .outsideWords => text.filter fun char => isLetter char || isDigit char || isBlank char
    | some .invisible => text.filter fun char => isGraph char || char = ' '
    | none => text
  if style.foldCase then text.map Char.toUpper else text

/-- The order of texts that depends on salt alone; equal texts stay together. -/
def compareShuffled (salt left right : Text) : Ordering :=
  let digest (text : Text) : Text := Bytes.toChars (Digest.md5 (Bytes.ofChars (salt ++ text)))
  (compareText (digest left) (digest right)).then (compareText left right)

/-- Compares texts. -/
def compare (style : KeyStyle) (salt left right : Text) : Ordering :=
  let left := style.relevant left
  let right := style.relevant right
  let order :=
    if style.number then compareNumbers left right
    else if style.general then compareGeneral left right
    else if style.size then compareSizes left right
    else if style.month then compareMonths left right
    else if style.random then compareShuffled salt left right
    else if style.version then compareVersions left right
    else compareText left right
  if style.reversed then order.swap else order

end KeyStyle

/-- A key of lines. -/
structure SortKey where
  style : KeyStyle := {}
  /-- How many fields and then how many characters come before the key, if it does not begin with the line. -/
  start : Option (Nat × Nat) := none
  /-- How many fields and then how many characters come before its end, if it does not go on to the end of the
  line. No characters stand for the whole of the next field. -/
  ending : Option (Nat × Nat) := none
  /-- Whether the key was given with a plus sign. -/
  isOld : Bool := false
  deriving DecidableEq, Repr

namespace SortKey

/-- Skips fields that end with a separator, or else ones that begin with blanks. The separator behind the last
field is skipped only if `beyond` holds. -/
def skipFields (separator : Option Char) (beyond : Bool) : Nat → Text → Text
  | 0, text => text
  | _, [] => []
  | count + 1, text =>
    match separator with
    | none => skipFields separator beyond count ((text.dropWhile isGap).dropWhile (!isGap ·))
    | some char =>
      let rest := text.dropWhile (· ≠ char)
      skipFields separator beyond count (if count = 0 && !beyond then rest else rest.tail)

/-- The text from the start of a key on. -/
def fromStart (key : SortKey) (separator : Option Char) (line : Text) : Text :=
  let (fields, chars) := key.start.getD (0, 0)
  let place := skipFields separator true fields line
  let place := if key.style.skipStart then place.dropWhile isGap else place
  place.drop chars

/-- The text from the end of a key on. -/
def fromEnd (key : SortKey) (separator : Option Char) (line : Text) : Text :=
  match key.ending with
  | none => []
  | some (fields, 0) => skipFields separator false (fields + 1) line
  | some (fields, chars) =>
    let place := skipFields separator true fields line
    let place := if key.style.skipEnd then place.dropWhile isGap else place
    place.drop chars

/-- The part of a line that a key is about. -/
def part (key : SortKey) (separator : Option Char) (line : Text) : Text :=
  let start := key.fromStart separator line
  start.take (start.length - (key.fromEnd separator line).length)

/-- Compares two lines by a key. -/
def compare (key : SortKey) (separator : Option Char) (salt left right : Text) : Ordering :=
  key.style.compare salt (key.part separator left) (key.part separator right)

end SortKey

/-- Gives up at a key that cannot be read. -/
def failKey {α : Type} (reason : String) (text : Text) : Work α :=
  Work.fail (reason.toList ++ ": invalid field specification ".toList ++ quoted text)

/-- Reads letters on one side of a key. Gives the text behind them. -/
def readKeyLetters (atStart atEnd : Bool) : Text → KeyStyle → KeyStyle × Text
  | [], style => (style, [])
  | letter :: rest, style =>
    match style.addLetter atStart atEnd letter with
    | some style => readKeyLetters atStart atEnd rest style
    | none => (style, letter :: rest)

/-- The number that a text begins with, and what follows it. -/
def keyNumber? (text : Text) : Option (Nat × Text) :=
  (readQuantity? {} text).map fun reading => (reading.value, reading.rest)

/-- Reads a number in a key. -/
def readKeyNumber (what : String) (text : Text) : Work (Nat × Text) := do
  match keyNumber? text with
  | some found => return found
  | none =>
    Work.fail ("invalid number ".toList ++ what.toList ++ ": invalid count at start of ".toList ++
      quoted text)

/-- Reads the number behind a point, if there is one. -/
def readKeyPlace (text : Text) : Work (Option Nat × Text) := do
  match text with
  | '.' :: rest => do
    let (char, rest) ← readKeyNumber "after '.'" rest
    return (some char, rest)
  | _ => return (none, text)

/-- The start of a key, unless it is that of the line. -/
def keyStart (field char : Nat) : Option (Nat × Nat) :=
  if field = 0 && char = 0 then none else some (field, char)

/-- Reads a key such as `2,3n` or `1.2b`. -/
def readKey (whole : Text) : Work SortKey := do
  let (field, rest) ← readKeyNumber "at field start" whole
  if field = 0 then failKey "field number is zero" whole
  let (char, rest) ← readKeyPlace rest
  if char = some 0 then failKey "character offset is zero" whole
  let (style, rest) := readKeyLetters true false rest {}
  let key : SortKey := { style, start := keyStart (field - 1) (char.getD 1 - 1) }
  let (key, rest) ← match rest with
    | ',' :: rest => do
      let (field, rest) ← readKeyNumber "after ','" rest
      if field = 0 then failKey "field number is zero" whole
      let (char, rest) ← readKeyPlace rest
      let (style, rest) := readKeyLetters false true rest style
      pure ({ key with style, ending := some (field - 1, char.getD 0) }, rest)
    | _ => pure (key, rest)
  if !rest.isEmpty then failKey "stray character in field spec" whole
  return key

/-- The start of a key that is given as `+1.2`, counted from zero. -/
def oldKey? (text : Text) : Option SortKey := do
  let (field, rest) ← keyNumber? text
  let (char, rest) ← match rest with
    | '.' :: rest => keyNumber? rest
    | _ => some (0, rest)
  let (style, rest) := readKeyLetters true false rest {}
  if rest.isEmpty then some { style, start := keyStart field char, isOld := true } else none

/-- Reads the end of a key that is given as `-1.2`. -/
def readOldEnd (key : SortKey) (whole : Text) : Work SortKey := do
  let (field, rest) ← readKeyNumber "after '-'" whole.tail
  let (char, rest) ← readKeyPlace rest
  let (style, rest) := readKeyLetters false true rest key.style
  if !rest.isEmpty then failKey "stray character in field spec" whole
  let char := char.getD 0
  return { key with style, ending := some (if char = 0 then field - 1 else field, char) }

/-!
Traces of sorting: marks below each line for the parts by which it was compared, and remarks about keys that may not
mean what they seem to mean.
-/

/-- How many columns a text takes. Tabs are shown as single characters. -/
def traceWidth (text : Text) : Nat :=
  (text.filter fun char => char = '\t' || !(char < ' ' || char = '\x7f')).length

/-- Where a number of decimal digits ends, and whether there are digits at all. -/
def afterNumber (text : Text) : Option Text :=
  let digits := if text.head? = some '-' then text.tail else text
  let whole := digits.takeWhile isDigit
  let (part, rest) : Text × Text :=
    match digits.drop whole.length with
    | '.' :: rest => (rest.takeWhile isDigit, rest.dropWhile isDigit)
    | rest => ([], rest)
  if whole.isEmpty && part.isEmpty then none
  else if part.isEmpty then some (digits.drop whole.length)
  else some rest

/-- How much of a part is used by an order that looks at its beginning alone. -/
def usedPart (style : KeyStyle) (part : Text) : Text :=
  let upTo (rest : Text) : Text := part.take (part.length - rest.length)
  if style.month then if month part = 0 then [] else part.take 3
  else if style.general then
    match generalNumber? part with
    | some (_, rest) => upTo rest
    | none => []
  else if style.isNumeric then
    match afterNumber part with
    | none => []
    | some rest =>
      let hasUnit := style.size && rest.head?.any fun char => char = 'k' || magnitudeLetters.contains char
      upTo (if hasUnit then rest.tail else rest)
  else part

/-- The marks for a part of a line. -/
def partMarks (before part : Text) : Text :=
  let width := traceWidth part
  List.replicate (traceWidth before) ' ' ++
    (if width = 0 then "^ no match for key".toList else List.replicate width '_') ++ ['\n']

/-- The marks for a key. -/
def SortKey.marks (key : SortKey) (separator : Option Char) (line : Text) : Text :=
  let start := if key.start.isSome then key.fromStart separator line else line
  let rest := key.fromEnd separator line
  let part := start.take (start.length - rest.length)
  let (start, part) :=
    if (key.style.skipStart && key.start.isNone) || key.style.month || key.style.isNumeric then
      let skipped := (part.takeWhile isGap).length
      (start.drop skipped, usedPart key.style (part.drop skipped))
    else (start, part)
  partMarks (line.take (line.length - start.length)) part

/-- A remark on a key given in the old way. -/
def oldKeyRemark (key : SortKey) : Text :=
  let (fields, _) := key.start.getD (0, 0)
  let (oldEnd, newEnd) : Text × Text :=
    match key.ending with
    | none => ([], [])
    | some (last, _) => (" -".toList ++ number (last + 1), ',' :: number (last + 1))
  "obsolescent key ".toList ++ quoted ('+' :: number fields ++ oldEnd) ++ " used; consider ".toList ++
    quoted ("-k ".toList ++ number (fields + 1) ++ newEnd) ++ " instead".toList

/-- Whether a key reaches over several fields. -/
def SortKey.spansFields (key : SortKey) : Bool :=
  match key.ending with
  | none => true
  | some (last, _) => (key.start.getD (0, 0)).1 < last

/-- What is remarked about one key with a number. -/
def keyRemarks (separator : Option Char) (given : Bool) (index : Nat) (key : SortKey) : List Text :=
  let numbered (before after : String) : Text := before.toList ++ number index ++ after.toList
  let isEmpty : Bool :=
    match key.start, key.ending with
    | some (first, _), some (last, _) => decide (last < first)
    | _, _ => false
  let skipsBlanks := key.style.isNumeric || key.style.month
  let inFirstField : Bool := key.ending.any fun (last, char) => last = 0 && char ≠ 0
  let startsInside := key.start.any fun (_, char) => char ≠ 0
  let endsInside := key.ending.any fun (_, char) => char ≠ 0
  let blanksCount :=
    given && !isEmpty && separator.isNone && !inFirstField &&
      ((!key.style.skipStart && (!skipsBlanks || startsInside)) || (!key.style.skipEnd && endsInside))
  (if key.isOld then [oldKeyRemark key] else []) ++
    (if isEmpty then [numbered "key " " has zero width and will be ignored"] else []) ++
    (if blanksCount then
      [numbered "leading blanks are significant in key " "; consider also specifying 'b'"] else []) ++
    (if given && key.style.isNumeric && key.spansFields then
      [numbered "key " " is numeric and spans multiple fields"] else [])

/-- The options for all keys that no key has taken over. -/
def unusedStyle (common : KeyStyle) (keys : List SortKey) : KeyStyle :=
  keys.foldl (fun unused key =>
    { unused with
      ignored := if unused.ignored = key.style.ignored then none else unused.ignored
      foldCase := unused.foldCase && !key.style.foldCase
      skipStart := unused.skipStart && !key.style.skipStart
      skipEnd := unused.skipEnd && !key.style.skipEnd
      month := unused.month && !key.style.month
      number := unused.number && !key.style.number
      general := unused.general && !key.style.general
      size := unused.size && !key.style.size
      random := unused.random && !key.style.random
      version := unused.version && !key.style.version
      reversed := unused.reversed && !key.style.reversed }) common

/-- Remarks on separators that could belong to numbers, and on the point in numbers. -/
def numberRemarks (separator : Option Char) (given : Bool) (keys : List SortKey) : List Text :=
  let numeric := keys.filter fun key => key.style.isNumeric
  let spanning := if given then numeric.filter SortKey.spansFields else []
  let treated (char : Char) (what : String) : List Text :=
    ["field separator ".toList ++ quoted [char] ++ (" is treated as a " ++ what ++ " in numbers").toList]
  let isPoint := separator = some '.' && !spanning.isEmpty
  let warned :=
    if spanning.isEmpty then []
    else
      match separator with
      | some '.' => treated '.' "decimal point"
      | some '-' => treated '-' "minus sign"
      | some '+' => if spanning.any (·.style.general) then treated '+' "plus sign" else []
      | _ => []
  let note := (if separator = some '.' then "" else "note ") ++ "numbers use '.' as a decimal point in this locale"
  warned ++ (if numeric.isEmpty || isPoint then [] else [note.toList])

/-- All remarks. `given` holds if keys were given, and `settles` if lines that are equal by all keys are compared as a
whole. -/
def sortRemarks (separator : Option Char) (given settles : Bool) (common : KeyStyle) (keys : List SortKey) :
    List Text :=
  let unused := unusedStyle common keys
  let onlyReverses := unused.reversed && !keys.isEmpty
  let shown := if settles then { unused with reversed := false } else unused
  let ignored :=
    if !unused.isPlain || (onlyReverses && !settles) then
      match shown.letters with
      | [letter] => ["option '-".toList ++ letter :: "' is ignored".toList]
      | letters => ["options '-".toList ++ letters ++ "' are ignored".toList]
    else []
  ["text ordering performed using simple byte comparison".toList] ++
    (keys.zipIdx.flatMap fun (key, index) => keyRemarks separator given (index + 1) key) ++
    numberRemarks separator given keys ++ ignored ++
    (if onlyReverses && settles then ["option '-r' only applies to last-resort comparison".toList] else [])

end Pipework.Tool
