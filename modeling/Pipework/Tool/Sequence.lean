import Pipework.Text.Conversion
import Pipework.Tool.Input
import Pipework.Tool.Option

set_option autoImplicit false

/-!
Numbers in a row, and the prime factors of numbers. Whole numbers are counted; others are computed with binary
numbers, each from the first one, so that errors do not add up.
-/

namespace Pipework.Tool

/-- The numbers that rows are made of. -/
def sequenceNumbers : BinaryFormat := .extended

/-- A number that a row is given by. -/
structure SequenceNumber where
  value : Floating
  /-- How wide the number is when it is written without an exponent. -/
  width : Int := 0
  /-- How many places it has behind the point, if that can be told. -/
  places : Option Nat := none
  deriving DecidableEq, Repr

namespace SequenceNumber

def one : SequenceNumber where
  value := sequenceNumbers.ofNat 1
  width := 1
  places := some 0

/-- The number behind the `e` of an exponent. -/
def exponentBehind (text : Text) : Int :=
  let text := text.dropWhile isSpace
  let value (digits : Text) : Int := digitsValue (digits.takeWhile isDigit)
  match text with
  | '-' :: digits => -(value digits)
  | '+' :: digits => value digits
  | digits => value digits

/-- The places and the width of a decimal number, as it is written. -/
def measure (text : Text) (places : Option Nat) : Int × Option Nat :=
  let whole := text.takeWhile (· ≠ '.')
  let hasPoint := whole.length < text.length
  let isMark (char : Char) : Bool := char = 'e' || char = 'E'
  let part := if hasPoint then (text.drop (whole.length + 1)).takeWhile (!isMark ·) else []
  let places := if hasPoint then some part.length else places
  let endsBeforeDigit := whole.isEmpty || !(whole.getLast?.any isDigit)
  let pointWidth : Int :=
    if !hasPoint then 0 else if part.isEmpty then -1 else if endsBeforeDigit then 1 else 0
  let width := (text.length : Int) + pointWidth
  let small := text.takeWhile (· ≠ 'e')
  let mantissa := if small.length < text.length then small else text.takeWhile (· ≠ 'E')
  if mantissa.length = text.length then (width, places)
  else
    let exponent := exponentBehind (text.drop (mantissa.length + 1))
    let width := width - (text.length - mantissa.length)
    if exponent < 0 then
      let bare := if !hasPoint || mantissa.length = whole.length + 1 then 1 else 0
      (width + bare - exponent, places.map (· + exponent.natAbs))
    else
      let places := places.map (· - exponent.natAbs)
      let lost : Int := if hasPoint && places = some 0 && !part.isEmpty then 1 else 0
      (width - lost + (exponent - min (part.length : Int) exponent), places)

/-- The number that a text stands for. -/
def read? (text : Text) : Option SequenceNumber :=
  match sequenceNumbers.read? (text.dropWhile isSpace) with
  | some (value, [], inRange) =>
    if !inRange && !value.isZero then none
    else
      let text := text.dropWhile fun char => isSpace char || char = '+'
      let places := if text.contains '.' || text.contains 'p' then none else some 0
      if text.contains 'x' || text.contains 'X' || !value.isFinite then some { value, places }
      else
        let (width, places) := measure text places
        some { value, width, places }
  | _ => none

/-- The whole number that stands for an endless row, or for a row that can be counted. -/
def natural? (number : SequenceNumber) : Option Nat :=
  let fraction := number.value.toFraction
  if number.places = some 0 && number.value.isFinite && !fraction.negative then
    some (fraction.timesTen 0)
  else none

end SequenceNumber

/-- How numbers of a row are shown. -/
structure SequenceFormat where
  before : Text := []
  conversion : Conversion := {}
  letter : Char := 'g'
  after : Text := []

namespace SequenceFormat

/-- A number without what stands around it. -/
def inner (format : SequenceFormat) (value : Floating) : Text :=
  format.conversion.floating sequenceNumbers format.letter value

def text (format : SequenceFormat) (value : Floating) : Text :=
  format.before ++ format.inner value ++ format.after

/-- The form of the numbers of a row, all of the same width if that is asked for. -/
def usual (equalWidth : Bool) (first step last : SequenceNumber) : SequenceFormat :=
  match first.places, step.places, last.places with
  | some firstPlaces, some stepPlaces, some lastPlaces =>
    let places := max firstPlaces stepPlaces
    let widened (number : SequenceNumber) (own : Nat) : Int :=
      number.width + ((places : Int) - own) +
        (if own = 0 && places ≠ 0 then 1 else 0)
    let lastWidth := widened last lastPlaces - (if lastPlaces ≠ 0 && places = 0 then 1 else 0)
    let width := if equalWidth then (max (widened first firstPlaces) lastWidth).toNat else 0
    { conversion := { width, precision := some places, zeroFilled := true }, letter := 'f' }
  | _, _, _ => {}

end SequenceFormat

/-- Text up to a directive, with doubled percent signs taken for single ones, and the rest from there on. -/
def beforeDirective : Text → Text × Text
  | '%' :: '%' :: rest =>
    let (text, after) := beforeDirective rest
    ('%' :: text, after)
  | '%' :: rest => ([], '%' :: rest)
  | char :: rest =>
    let (text, after) := beforeDirective rest
    (char :: text, after)
  | [] => ([], [])

/-- Reads a form for numbers. -/
def readSequenceFormat (text : Text) : Work SequenceFormat := do
  let fault {α : Type} (reason : Text) : Work α := Work.fail ("format ".toList ++ quoted text ++ reason)
  match beforeDirective text with
  | (_, []) => fault " has no % directive".toList
  | (before, _ :: directive) => do
    let flags := directive.takeWhile fun char => Conversion.isFlag char || char = '\x27'
    let rest := directive.drop flags.length
    let width := rest.takeWhile isDigit
    let rest := rest.drop width.length
    let (precision, rest) : Option Nat × Text :=
      match rest with
      | '.' :: rest => (some (digitsValue (rest.takeWhile isDigit)), rest.dropWhile isDigit)
      | rest => (none, rest)
    match if rest.head? = some 'L' then rest.tail else rest with
    | [] => fault " ends in %".toList
    | letter :: rest => do
      if !"efgaEFGA".toList.contains letter then fault (" has unknown %".toList ++ [letter] ++ " directive".toList)
      match beforeDirective rest with
      | (after, []) =>
        let conversion := flags.foldl Conversion.addFlag { width := digitsValue width, precision }
        return { before, conversion, letter, after }
      | _ => fault " has too many % directives".toList

/-- Puts out whole numbers up to a last one, if there is one. -/
def putNaturals (separator : Text) (step : Nat) (last : Option Nat) : Nat → Nat → Work Unit
  | 0, _ => return ()
  | fuel + 1, value => do
    Work.put (number value)
    let next := value + step
    if last.any (· < next) then Work.put ['\n']
    else do
      Work.put separator
      putNaturals separator step last fuel next

/-- A row of numbers with a fraction. -/
structure Row where
  first : Floating
  step : Floating
  last : Floating

namespace Row

/-- Whether a number lies beyond the end. -/
def isBeyond (row : Row) (value : Floating) : Bool :=
  if row.step.isNegative && !row.step.isZero then value.isLess row.last else row.last.isLess value

/-- The number with an index. -/
def number (row : Row) (index : Nat) : Floating :=
  sequenceNumbers.add row.first (sequenceNumbers.multiply (sequenceNumbers.ofNat index) row.step)

/-- Whether a number beyond the end shows as the end itself, and other than the number before it. -/
def showsAsLast (row : Row) (format : SequenceFormat) (before value : Floating) : Bool :=
  let shown := format.inner value
  match sequenceNumbers.read? (shown.dropWhile isSpace) with
  | some (read, [], _) => read.isEqual row.last && format.inner before != shown
  | _ => false

/-- Puts out the numbers from an index on. -/
def put (row : Row) (format : SequenceFormat) (separator : Text) : Nat → Nat → Floating → Work Unit
  | 0, _, _ => return ()
  | fuel + 1, index, value => do
    Work.put (format.text value)
    let next := row.number (index + 1)
    if !row.isBeyond next then do
      Work.put separator
      put row format separator fuel (index + 1) next
    else do
      if row.showsAsLast format value next then Work.put (separator ++ format.text next)
      Work.put ['\n']

end Row

/-- The largest step between whole numbers that are counted without rounding. -/
def countedStepLimit : Nat := 200

/-- Whether a text holds decimal digits alone. -/
def isNumeral (text : Text) : Bool := !text.isEmpty && text.all isDigit

/-- Reads a number of a row. -/
def readSequenceNumber (text : Text) : Work SequenceNumber := do
  match SequenceNumber.read? text with
  | none => Work.failUsage ("invalid floating point argument: ".toList ++ quoted text)
  | some found => do
    if found.value.isUndefined then
      Work.failUsage ("invalid 'not-a-number' argument: ".toList ++ quoted text)
    return found

/-- The first, the step and the last of the operands, where the last may stand alone or behind the first. -/
def rowOf {α : Type} (one : α) : List α → α × α × α
  | [last] => (one, one, last)
  | [first, last] => (first, one, last)
  | first :: step :: last :: _ => (first, step, last)
  | [] => (one, one, one)

/-- Prints numbers in a row. -/
def seq (arguments : List Text) : Work Unit := do
  let table : OptionTable :=
    { letters := "f:s:w", names := [("format", 'f'), ("separator", 's'), ("equal-width", 'w')], inOrder := true
      takesNumbers := true }
  let (given, operands) ← readOptions table arguments
  needOperand operands
  match operands.drop 3 with
  | extra :: _ => failExtra extra
  | [] => pure ()
  let custom ← (argumentOf? given 'f').mapM readSequenceFormat
  let equalWidth := hasLetter given 'w'
  if custom.isSome && equalWidth then
    Work.failUsage "format string may not be specified when printing equal width strings".toList
  let separator := (argumentOf? given 's').getD ['\n']
  let counts := custom.isNone && !equalWidth && separator.length = 1
  let (firstText, stepText, lastText) := rowOf ['1'] operands
  let countedStep := (natural? stepText).any fun step => 0 < step && step ≤ countedStepLimit
  if counts && operands.all isNumeral && countedStep && digitsValue firstText ≤ digitsValue lastText then
    putNaturals separator (digitsValue stepText) (some (digitsValue lastText)) stepLimit (digitsValue firstText)
  else do
    let numbers ← operands.zipIdx.mapM fun (operand, index) => do
      if index = 2 && ((SequenceNumber.read? (operands.getD 1 [])).any fun found => found.value.isZero) then
        Work.failUsage ("invalid Zero increment value: ".toList ++ quoted (operands.getD 1 []))
      readSequenceNumber operand
    let (first, step, last) := rowOf SequenceNumber.one numbers
    let endless := last.value = .infinite false && last.places = some 0
    let counted : Option (Nat × Nat × Option Nat) := do
      let start ← first.natural?
      let size ← step.natural?
      let bound ← if endless then some none else last.natural?.map some
      if counts && 0 < size && size ≤ countedStepLimit && (bound.all (start ≤ ·)) then some (start, size, bound)
      else none
    match counted with
    | some (start, size, bound) => putNaturals separator size bound stepLimit start
    | none =>
      let row : Row := { first := first.value, step := step.value, last := last.value }
      if row.isBeyond row.first then return ()
      else row.put (custom.getD (.usual equalWidth first step last)) separator stepLimit 0 row.first

/-- The prime factors of a number, from a divisor on. -/
def primeFactors : Nat → Nat → Nat → List Nat
  | 0, _, value => [value]
  | fuel + 1, divisor, value =>
    if value < 2 then []
    else if value < divisor * divisor then [value]
    else if value % divisor = 0 then divisor :: primeFactors fuel divisor (value / divisor)
    else primeFactors fuel (if divisor = 2 then 3 else divisor + 2) value

/-- Prints a number with its prime factors. -/
def putFactors (text : Text) : Work Unit := do
  let digits := if text.head? = some '+' then text.tail else text
  match natural? digits with
  | none => Work.report (quoted text ++ " is not a valid positive integer".toList)
  | some value =>
    let factors := (primeFactors (value + 2) 2 value).map fun factor => ' ' :: number factor
    Work.putLine (number value ++ ':' :: factors.flatten)

/-- Words with blanks between them. -/
def wordsOf (text : Text) : List Text :=
  (text.splitBy fun left right => isSpace left = isSpace right).filter fun run => !run.all isSpace

/-- Prints prime factors. -/
def factor (arguments : List Text) : Work Unit := do
  let (_, operands) ← readOptions { letters := "h" } arguments
  if operands.isEmpty then
    match ← Work.readInput with
    | .ok text => (wordsOf text).forM putFactors
    | .error fault => Work.report (because "error reading input".toList fault.errno)
  else operands.forM putFactors

end Pipework.Tool
