set_option autoImplicit false

/-!
Numbers with a fraction: how they are read from decimal text and printed to so many digits. All of it is exact arithmetic on whole numbers.
-/

namespace Pipework

/-- A number `numerator / denominator`, with a sign of its own. -/
structure Fraction where
  negative : Bool
  numerator : Nat
  denominator : Nat
  deriving DecidableEq, Repr

namespace Fraction

/-- The quotient rounded to the nearest whole number, and from the middle to the even one. -/
def roundQuotient (numerator denominator : Nat) : Nat :=
  let quotient := numerator / denominator
  let twice := 2 * (numerator % denominator)
  if denominator < twice || (twice = denominator && quotient % 2 = 1) then quotient + 1 else quotient

/-- The numerator with the sign of the number. -/
def signed (fraction : Fraction) : Int :=
  if fraction.negative then -(fraction.numerator : Int) else fraction.numerator

/-- The order of numbers. -/
def compare (left right : Fraction) : Ordering :=
  compareOfLessAndEq (left.signed * right.denominator) (right.signed * left.denominator)

/-- The number with this many factors of two. -/
def scale (fraction : Fraction) (exponent : Int) : Fraction :=
  { fraction with
    numerator := fraction.numerator * (1 <<< exponent.toNat)
    denominator := fraction.denominator * (1 <<< (-exponent).toNat) }

/-- The number times a power of ten, rounded. -/
def timesTen (fraction : Fraction) (power : Int) : Nat :=
  roundQuotient (fraction.numerator * Nat.pow 10 power.toNat)
    (fraction.denominator * Nat.pow 10 (-power).toNat)

/-- Digits, filled up with zeros to at least so many. -/
def digits (least value : Nat) : List Char :=
  let shown := Nat.toDigits 10 value
  List.replicate (least - shown.length) '0' ++ shown

/-- A whole number with a point before its last digits. -/
def withPoint (places value : Nat) (keepsPoint : Bool) : List Char :=
  let shown := digits (places + 1) value
  let whole := shown.take (shown.length - places)
  if places = 0 then whole ++ (if keepsPoint then ['.'] else [])
  else whole ++ '.' :: shown.drop (shown.length - places)

/-- The digits of the number with so many places behind the point. -/
def fixed (fraction : Fraction) (places : Nat) (keepsPoint : Bool) : List Char :=
  withPoint places (fraction.timesTen places) keepsPoint

/-- The exponent of the leading digit. -/
def exponent (fraction : Fraction) : Int :=
  if fraction.numerator = 0 then 0
  else
    let isAtLeast (power : Int) : Bool :=
      decide (fraction.denominator * Nat.pow 10 power.toNat ≤
        fraction.numerator * Nat.pow 10 (-power).toNat)
    let guess : Int :=
      ((Nat.toDigits 10 fraction.numerator).length : Int) -
        (Nat.toDigits 10 fraction.denominator).length
    if isAtLeast guess then guess else guess - 1

/-- The leading digits, so many and one more, as a whole number, and the exponent of the first. -/
def leading (fraction : Fraction) (places : Nat) : Nat × Int :=
  let exponent := fraction.exponent
  let value := fraction.timesTen (places - exponent)
  if value = Nat.pow 10 (places + 1) then (value / 10, exponent + 1) else (value, exponent)

/-- The digits of the number with one digit before the point, and its exponent. -/
def scientific (fraction : Fraction) (places : Nat) (keepsPoint : Bool) : List Char × Int :=
  let (value, exponent) := fraction.leading places
  (withPoint places value keepsPoint, exponent)

/-- The text of an exponent. -/
def exponentText (exponent : Int) : List Char :=
  'e' :: (if exponent < 0 then '-' else '+') :: digits 2 exponent.natAbs

/-- Drops zeros at the end of a fraction, and a point that nothing follows. -/
def dropZeros (text : List Char) : List Char :=
  if text.contains '.' then
    let kept := text.reverse.dropWhile (· = '0')
    ((match kept with
      | '.' :: rest => rest
      | kept => kept)).reverse
  else text

/-- The digits of the number in the shorter of the two forms, with so many leading digits. -/
def general (fraction : Fraction) (leadingDigits : Nat) (keepsZeros : Bool) : List Char :=
  let places := leadingDigits - 1
  let (_, exponent) := fraction.leading places
  let trim (text : List Char) : List Char := if keepsZeros then text else dropZeros text
  if -4 ≤ exponent && exponent < (leadingDigits : Int) then
    trim (fraction.fixed ((places : Int) - exponent).toNat keepsZeros)
  else
    let (text, exponent) := fraction.scientific places keepsZeros
    trim text ++ exponentText exponent

/-- The value of decimal digits. -/
def digitsValue (digits : List Char) : Nat :=
  digits.foldl (fun value char => value * 10 + (char.toNat - '0'.toNat)) 0

/-- The largest exponent that text is taken to mean. -/
def exponentLimit : Nat := 10000

/-- The number that decimal text begins with, and the text behind it. -/
def read? (text : List Char) : Option (Fraction × List Char) :=
  let (negative, unsigned) :=
    match text with
    | '-' :: rest => (true, rest)
    | '+' :: rest => (false, rest)
    | _ => (false, text)
  let whole := unsigned.takeWhile Char.isDigit
  let afterWhole := unsigned.drop whole.length
  let (part, afterPart) :=
    match afterWhole with
    | '.' :: rest =>
      let part := rest.takeWhile Char.isDigit
      (part, rest.drop part.length)
    | _ => ([], afterWhole)
  if whole.isEmpty && part.isEmpty then none
  else
    let (power, rest) : Int × List Char :=
      match afterPart with
      | mark :: after =>
        if mark = 'e' || mark = 'E' then
          let (isNegative, shown) :=
            match after with
            | '-' :: shown => (true, shown)
            | '+' :: shown => (false, shown)
            | _ => (false, after)
          let shownDigits := shown.takeWhile Char.isDigit
          if shownDigits.isEmpty then (0, afterPart)
          else
            let size : Int := min (digitsValue shownDigits) exponentLimit
            (if isNegative then -size else size, shown.drop shownDigits.length)
        else (0, afterPart)
      | [] => (0, afterPart)
    let power := power - part.length
    some ({ negative
            numerator := digitsValue (whole ++ part) * Nat.pow 10 power.toNat
            denominator := Nat.pow 10 (-power).toNat }, rest)

end Fraction

end Pipework
