import Pipework.Text.Floating

set_option autoImplicit false

/-!
Conversions: how a format prints one argument, with flags, a width and a precision.
-/

namespace Pipework

/-- A conversion of a format. -/
structure Conversion where
  leftAligned : Bool := false
  showsPlus : Bool := false
  showsBlank : Bool := false
  /-- Whether bases are marked and points are kept. -/
  alternate : Bool := false
  zeroFilled : Bool := false
  width : Nat := 0
  precision : Option Nat := none
  deriving DecidableEq, Repr

namespace Conversion

/-- Takes on a flag. -/
def addFlag (conversion : Conversion) (flag : Char) : Conversion :=
  match flag with
  | '-' => { conversion with leftAligned := true }
  | '+' => { conversion with showsPlus := true }
  | ' ' => { conversion with showsBlank := true }
  | '#' => { conversion with alternate := true }
  | '0' => { conversion with zeroFilled := true }
  | _ => conversion

def isFlag (char : Char) : Bool := "-+ #0".toList.contains char

/-- Fills text up to the width. -/
def pad (conversion : Conversion) (text : List Char) : List Char :=
  let missing := conversion.width - text.length
  if conversion.leftAligned then text ++ List.replicate missing ' '
  else List.replicate missing ' ' ++ text

/-- Text, of which the precision limits the length. -/
def text (conversion : Conversion) (argument : List Char) : List Char :=
  conversion.pad (match conversion.precision with
    | some limit => argument.take limit
    | none => argument)

/-- Digits behind a sign or a mark, filled up with zeros between them if that is asked for. -/
def signed (conversion : Conversion) (fillsZeros : Bool) (sign digits : List Char) : List Char :=
  if fillsZeros && !conversion.leftAligned then
    sign ++ List.replicate (conversion.width - digits.length - sign.length) '0' ++ digits
  else conversion.pad (sign ++ digits)

/-- The sign of a number. -/
def sign (conversion : Conversion) (negative : Bool) : List Char :=
  if negative then ['-']
  else if conversion.showsPlus then ['+']
  else if conversion.showsBlank then [' ']
  else []

/-- At least as many digits as the precision says. -/
def fillDigits (conversion : Conversion) (value : Nat) (digits : List Char) : List Char :=
  if value = 0 && conversion.precision = some 0 then []
  else List.replicate (conversion.precision.getD 1 - digits.length) '0' ++ digits

/-- A whole number with its sign. -/
def integer (conversion : Conversion) (value : Int) : List Char :=
  let digits := conversion.fillDigits value.natAbs (Nat.toDigits 10 value.natAbs)
  conversion.signed (conversion.zeroFilled && conversion.precision.isNone)
    (conversion.sign (value < 0)) digits

/-- A whole number without a sign, in the base that a letter stands for. -/
def natural (conversion : Conversion) (letter : Char) (value : Nat) : List Char :=
  let digits :=
    match letter with
    | 'o' => Nat.toDigits 8 value
    | 'x' => Nat.toDigits 16 value
    | 'X' => (Nat.toDigits 16 value).map Char.toUpper
    | _ => Nat.toDigits 10 value
  let digits := conversion.fillDigits value digits
  let (mark, digits) : List Char × List Char :=
    if !conversion.alternate then ([], digits)
    else if letter = 'o' && digits.head? ≠ some '0' then ([], '0' :: digits)
    else if (letter = 'x' || letter = 'X') && value ≠ 0 then (['0', letter], digits)
    else ([], digits)
  conversion.signed (conversion.zeroFilled && conversion.precision.isNone) mark digits

/-- A number with a fraction, in the form that a letter stands for. -/
def fraction (conversion : Conversion) (letter : Char) (value : Fraction) : List Char :=
  let places := conversion.precision.getD 6
  let digits : List Char :=
    match letter.toLower with
    | 'f' => value.fixed places conversion.alternate
    | 'e' =>
      let (text, exponent) := value.scientific places conversion.alternate
      text ++ Fraction.exponentText exponent
    | _ => value.general (max 1 places) conversion.alternate
  let digits := if letter.isUpper then digits.map Char.toUpper else digits
  conversion.signed conversion.zeroFilled (conversion.sign value.negative) digits

/-- The hexadecimal digits of a mantissa with one digit before the point, and the exponent of two behind them. The
first digit takes as many bits as the others leave. -/
def mantissaDigits (conversion : Conversion) (format : BinaryFormat) (mantissa : Nat) (exponent : Int) :
    List Char × Int :=
  let places := (format.bits - 1) / 4
  let exponent := if mantissa = 0 then 0 else exponent + 4 * places
  let shown := (conversion.precision.getD places)
  let value :=
    if shown < places then Fraction.roundQuotient mantissa (1 <<< (4 * (places - shown)))
    else mantissa * (1 <<< (4 * (shown - places)))
  let (value, exponent) :=
    if 16 ≤ value >>> (4 * shown) then (value / 16, exponent + 4) else (value, exponent)
  let digits := Nat.toDigits 16 value
  let digits := List.replicate (shown + 1 - digits.length) '0' ++ digits
  let behind := digits.tail
  let behind :=
    if conversion.precision.isNone then (behind.reverse.dropWhile (· = '0')).reverse else behind
  (digits.take 1 ++ (if behind.isEmpty && !conversion.alternate then [] else '.' :: behind), exponent)

/-- A binary number, in the form that a letter stands for. -/
def floating (conversion : Conversion) (format : BinaryFormat) (letter : Char) (value : Floating) : List Char :=
  let sign := conversion.sign value.isNegative
  let word (text : String) : List Char :=
    conversion.pad (sign ++ if letter.isUpper then text.toList.map Char.toUpper else text.toList)
  match value with
  | .infinite _ => word "inf"
  | .undefined _ => word "nan"
  | .finite _ mantissa exponent =>
    if letter.toLower = 'a' then
      let (digits, exponent) := conversion.mantissaDigits format mantissa exponent
      let power := 'p' :: (if exponent < 0 then '-' else '+') :: Nat.toDigits 10 exponent.natAbs
      let capital (text : List Char) : List Char := if letter.isUpper then text.map Char.toUpper else text
      conversion.signed conversion.zeroFilled (sign ++ capital ['0', 'x']) (capital (digits ++ power))
    else conversion.fraction letter value.toFraction

end Conversion

end Pipework
