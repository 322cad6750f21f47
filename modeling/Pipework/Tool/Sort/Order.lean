import Pipework.Text.Floating
import Pipework.Tool.Translate

set_option autoImplicit false

/-!
Orders of text: byte by byte, by the numbers or months that texts begin with, and by versions.
-/

namespace Pipework.Tool

/-- The order of characters one by one; a text comes before its continuations. -/
def compareText : Text → Text → Ordering
  | [], [] => .eq
  | [], _ :: _ => .lt
  | _ :: _, [] => .gt
  | left :: lefts, right :: rights =>
    if left < right then .lt else if right < left then .gt else compareText lefts rights

/-- Whether a character stands between fields where no separator is given. -/
def isGap (char : Char) : Bool := isBlank char || char = '\n'

/-- A number of decimal digits: its value times a power of ten. -/
structure DecimalKey where
  value : Int
  places : Nat
  deriving DecidableEq, Repr

/-- The number that a text begins with, behind blanks; zero if there is none. Also gives what follows. -/
def decimalKey (text : Text) : DecimalKey × Text :=
  let text := text.dropWhile isGap
  let (negative, digits) : Bool × Text :=
    match text with
    | '-' :: rest => (true, rest)
    | rest => (false, rest)
  let whole := digits.takeWhile isDigit
  let (fraction, rest) : Text × Text :=
    match digits.drop whole.length with
    | '.' :: rest => (rest.takeWhile isDigit, rest.dropWhile isDigit)
    | rest => ([], rest)
  let value := digitsValue (whole ++ fraction)
  ({ value := if negative then -(value : Int) else value, places := fraction.length }, rest)

def DecimalKey.compare (left right : DecimalKey) : Ordering :=
  compareOfLessAndEq (left.value * Nat.pow 10 right.places) (right.value * Nat.pow 10 left.places)

/-- The order by numbers. -/
def compareNumbers (left right : Text) : Ordering :=
  (decimalKey left).1.compare (decimalKey right).1

/-- Letters behind numbers that stand for powers of a thousand, from the least on. -/
def magnitudeLetters : Text := "KMGTPEZY".toList

/-- The power of a thousand that a number with a letter behind it has, with the sign of the number. -/
def magnitude (text : Text) : Int :=
  let (key, rest) := decimalKey text
  let power : Nat :=
    match rest with
    | letter :: _ =>
      if letter = 'k' then 1
      else match magnitudeLetters.findIdx? (· = letter) with
        | some index => index + 1
        | none => 0
    | [] => 0
  if key.value = 0 then 0 else if key.value < 0 then -(power : Int) else power

/-- The order by numbers with letters behind them. -/
def compareSizes (left right : Text) : Ordering :=
  (compareOfLessAndEq (magnitude left) (magnitude right)).then (compareNumbers left right)

/-- The numbers that are compared in their general form. -/
def generalNumbers : BinaryFormat := .extended

/-- The number of any form that a text begins with, and the text behind it. -/
def generalNumber? (text : Text) : Option (Floating × Text) :=
  (generalNumbers.read? (text.dropWhile isSpace)).map fun (value, rest, _) => (value, rest)

/-- The order of numbers; what is undefined comes first, and there the negative sign counts. -/
def compareFloating (left right : Floating) : Ordering :=
  match left.compare? right with
  | some order => order
  | none =>
    match left.isUndefined, right.isUndefined with
    | true, true => compareOfLessAndEq right.isNegative.toNat left.isNegative.toNat
    | true, false => .lt
    | false, _ => .gt

/-- The order by numbers of any form; what is no number comes first. -/
def compareGeneral (left right : Text) : Ordering :=
  match generalNumber? left, generalNumber? right with
  | none, none => .eq
  | none, some _ => .lt
  | some _, none => .gt
  | some (left, _), some (right, _) => compareFloating left right

def monthNames : List String :=
  ["JAN", "FEB", "MAR", "APR", "MAY", "JUN", "JUL", "AUG", "SEP", "OCT", "NOV", "DEC"]

/-- The number of the month that a text begins with, or zero. -/
def month (text : Text) : Nat :=
  let name := ((text.dropWhile isGap).take 3).map Char.toUpper
  match monthNames.findIdx? (·.toList = name) with
  | some index => index + 1
  | none => 0

def compareMonths (left right : Text) : Ordering := compareOfLessAndEq (month left) (month right)

/-- The place of a character in the order of versions: a tilde comes before the end of the text, and letters come
before other signs. -/
def versionRank : Option Char → Int
  | none => 0
  | some char =>
    if isDigit char then 0
    else if isLower char || isUpper char then char.toNat
    else if char = '~' then -1
    else char.toNat + 256

/-- Compares texts by the characters that are no digits and the numbers in turn. -/
def compareVersionParts : Nat → Text → Text → Ordering
  | 0, _, _ => .eq
  | fuel + 1, left, right =>
    if left.isEmpty && right.isEmpty then .eq
    else
      let isSign (text : Text) : Bool := text.head?.any (!isDigit ·)
      if isSign left || isSign right then
        match compareOfLessAndEq (versionRank left.head?) (versionRank right.head?) with
        | .eq => compareVersionParts fuel left.tail right.tail
        | order => order
      else
        let number (text : Text) : Text := (text.takeWhile isDigit)
        match compareOfLessAndEq (digitsValue (number left)) (digitsValue (number right)) with
        | .eq => compareVersionParts fuel (left.dropWhile isDigit) (right.dropWhile isDigit)
        | order => order

/-- The part of a name before the extensions at its end. -/
def withoutExtensions : Nat → Text → Text
  | 0, name => name
  | fuel + 1, name =>
    let isInside (char : Char) : Bool :=
      isLower char || isUpper char || isDigit char || char = '~'
    let extension := (name.reverse.takeWhile isInside).reverse
    let before := name.take (name.length - extension.length)
    match before.getLast?, extension.head? with
    | some '.', some first =>
      if isDigit first || before.length ≤ 1 then name else withoutExtensions fuel before.dropLast
    | _, _ => name

/-- The order by versions. Extensions count only where all else is equal. -/
def compareVersions (left right : Text) : Ordering :=
  if left = right then .eq
  else
    let rank (name : Text) : Nat :=
      if name.isEmpty then 0 else if name = ['.'] then 1 else if name = ['.', '.'] then 2
      else if name.head? = some '.' then 3 else 4
    match compareOfLessAndEq (rank left) (rank right) with
    | .eq =>
      let short := compareVersionParts (left.length + right.length + 1)
        (withoutExtensions left.length left) (withoutExtensions right.length right)
      short.then (compareVersionParts (left.length + right.length + 1) left right)
    | order => order

end Pipework.Tool
