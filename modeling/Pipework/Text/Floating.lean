import Pipework.Text.Decimal

set_option autoImplicit false

/-!
Binary numbers with a fraction. A format says how many bits a mantissa has and how large exponents can be; there
are infinite numbers, and values that are none. The formats here are those that machines compute with.
-/

namespace Pipework

/-- A format of binary numbers. -/
structure BinaryFormat where
  /-- How many bits a mantissa has. -/
  bits : Nat
  /-- The exponent of the last bit of the smallest numbers. -/
  least : Int
  /-- The exponent of the last bit of the largest numbers. -/
  most : Int
  deriving DecidableEq, Repr

/-- A number of a format: a whole mantissa times a power of two, something larger than all of these, or no
number. -/
inductive Floating where
  | finite (negative : Bool) (mantissa : Nat) (exponent : Int)
  | infinite (negative : Bool)
  | undefined (negative : Bool)
  deriving DecidableEq, Repr

namespace Floating

def zero : Floating := finite false 0 0

def isNegative : Floating → Bool
  | finite negative _ _ | infinite negative | undefined negative => negative

def isFinite : Floating → Bool
  | finite _ _ _ => true
  | _ => false

def isUndefined : Floating → Bool
  | undefined _ => true
  | _ => false

def isZero : Floating → Bool
  | finite _ mantissa _ => mantissa = 0
  | _ => false

/-- The number with another sign. -/
def withSign (negative : Bool) : Floating → Floating
  | finite _ mantissa exponent => finite negative mantissa exponent
  | infinite _ => infinite negative
  | undefined _ => undefined negative

/-- A finite number as a fraction; zero for the others. -/
def toFraction : Floating → Fraction
  | finite negative mantissa exponent =>
    Fraction.scale { negative, numerator := mantissa, denominator := 1 } exponent
  | infinite negative | undefined negative => { negative, numerator := 0, denominator := 1 }

/-- Where a number stands among the infinite ones, and its value if it is finite. -/
def rank : Floating → Int
  | infinite negative => if negative then -1 else 1
  | _ => 0

/-- The order of two numbers; none if one of them is no number. -/
def compare? (left right : Floating) : Option Ordering :=
  if left.isUndefined || right.isUndefined then none
  else
    match left, right with
    | finite _ _ _, finite _ _ _ => some (left.toFraction.compare right.toFraction)
    | _, _ => some (compareOfLessAndEq left.rank right.rank)

/-- Whether one number is less than another. Both are numbers then. -/
def isLess (left right : Floating) : Bool := left.compare? right = some .lt

def isEqual (left right : Floating) : Bool := left.compare? right = some .eq

end Floating

namespace BinaryFormat

def single : BinaryFormat where
  bits := 24
  least := -149
  most := 104

def double : BinaryFormat where
  bits := 53
  least := -1074
  most := 971

def extended : BinaryFormat where
  bits := 64
  least := -16445
  most := 16320

/-- The exponent of the highest bit of a fraction that is not zero. -/
def highestBit (value : Fraction) : Int :=
  let size : Int := (value.numerator.log2 : Int) - value.denominator.log2
  let scaled := value.scale (-size)
  if scaled.numerator < scaled.denominator then size - 1 else size

/-- The number of a format that is nearest to a fraction, and from the middle the even one. Also says whether the
format reaches so far: a fraction may be too large for it, or so small that bits of its mantissa are lost. -/
def round (format : BinaryFormat) (value : Fraction) : Floating × Bool :=
  if value.numerator = 0 then (.finite value.negative 0 format.least, true)
  else
    let exponent := max format.least (highestBit value - (format.bits - 1))
    let scaled := value.scale (-exponent)
    let rounded := Fraction.roundQuotient scaled.numerator scaled.denominator
    let isFull := rounded = 1 <<< format.bits
    let mantissa := if isFull then rounded / 2 else rounded
    let exponent := if isFull then exponent + 1 else exponent
    if format.most < exponent then (.infinite value.negative, false)
    else
      let isExact : Bool := rounded * scaled.denominator = scaled.numerator
      (.finite value.negative mantissa exponent, 1 <<< (format.bits - 1) ≤ mantissa || isExact)

/-- The number that a whole number is rounded to. -/
def ofNat (format : BinaryFormat) (value : Nat) : Floating :=
  (format.round { negative := false, numerator := value, denominator := 1 }).1

/-- The sum of two numbers. -/
def add (format : BinaryFormat) (left right : Floating) : Floating :=
  match left, right with
  | .undefined _, _ | .infinite _, .finite _ _ _ => left
  | _, .undefined _ | .finite _ _ _, .infinite _ => right
  | .infinite first, .infinite second => if first = second then left else .undefined true
  | .finite _ _ _, .finite _ _ _ =>
    let first := left.toFraction
    let second := right.toFraction
    let total := first.signed * second.denominator + second.signed * first.denominator
    let negative := if total = 0 then first.negative && second.negative else decide (total < 0)
    (format.round
      { negative, numerator := total.natAbs, denominator := first.denominator * second.denominator }).1

/-- The product of two numbers. -/
def multiply (format : BinaryFormat) (left right : Floating) : Floating :=
  let negative := left.isNegative != right.isNegative
  if left.isUndefined then left
  else if right.isUndefined then right
  else
    match left, right with
    | .finite _ _ _, .finite _ _ _ =>
      let first := left.toFraction
      let second := right.toFraction
      (format.round
        { negative
          numerator := first.numerator * second.numerator
          denominator := first.denominator * second.denominator }).1
    | _, _ => if left.isZero || right.isZero then .undefined true else .infinite negative

/-- The quotient of two numbers, of which the second is finite and not zero. -/
def divide (format : BinaryFormat) (left right : Floating) : Floating :=
  match left with
  | .finite _ _ _ =>
    let first := left.toFraction
    let second := right.toFraction
    (format.round
      { negative := left.isNegative != right.isNegative
        numerator := first.numerator * second.denominator
        denominator := first.denominator * second.numerator }).1
  | _ => left

/-- The value of a hexadecimal digit. -/
def hexDigit? (char : Char) : Option Nat :=
  if char.isDigit then some (char.toNat - '0'.toNat)
  else if 'a' ≤ char.toLower && char.toLower ≤ 'f' then some (char.toLower.toNat - 'a'.toNat + 10)
  else none

/-- The largest exponent that text is taken to mean. -/
def exponentLimit : Nat := 100000

/-- The power of two behind a letter `p`, and the text behind it. Without digits there is none. -/
def readPower (text : List Char) : Int × List Char :=
  match text with
  | mark :: after =>
    if mark = 'p' || mark = 'P' then
      let (negative, shown) : Bool × List Char :=
        match after with
        | '-' :: shown => (true, shown)
        | '+' :: shown => (false, shown)
        | _ => (false, after)
      let digits := shown.takeWhile Char.isDigit
      if digits.isEmpty then (0, text)
      else
        let size : Int := min (Fraction.digitsValue digits) exponentLimit
        (if negative then -size else size, shown.drop digits.length)
    else (0, text)
  | [] => (0, text)

/-- The number behind `0x`, and the text behind it. -/
def readHexadecimal? (text : List Char) : Option (Fraction × List Char) :=
  let isDigit (char : Char) : Bool := (hexDigit? char).isSome
  let whole := text.takeWhile isDigit
  let (part, rest) : List Char × List Char :=
    match text.drop whole.length with
    | '.' :: rest => (rest.takeWhile isDigit, rest.dropWhile isDigit)
    | rest => ([], rest)
  if whole.isEmpty && part.isEmpty then none
  else
    let mantissa := (whole ++ part).foldl (fun value char => value * 16 + (hexDigit? char).getD 0) 0
    let (power, rest) := readPower rest
    some (Fraction.scale { negative := false, numerator := mantissa, denominator := 1 }
      (power - 4 * part.length), rest)

/-- The text behind a word, if it begins with it. Capitals count as small letters. -/
def afterWord? (word : String) (text : List Char) : Option (List Char) :=
  if (text.take word.length).map Char.toLower = word.toList then some (text.drop word.length) else none

/-- The text behind characters in parentheses, which may follow what is no number. -/
def afterPayload (text : List Char) : List Char :=
  match text with
  | '(' :: inside =>
    match inside.dropWhile fun char => char.isAlphanum || char = '_' with
    | ')' :: rest => rest
    | _ => text
  | _ => text

/-- The number that a text without a sign begins with, and the text behind it. Also says whether the format
reaches so far. -/
def readUnsigned? (format : BinaryFormat) (text : List Char) : Option (Floating × List Char × Bool) :=
  let finite (found : Fraction × List Char) : Floating × List Char × Bool :=
    let (value, inRange) := format.round found.1
    (value, found.2, inRange)
  match text with
  | '0' :: mark :: digits =>
    match if mark = 'x' || mark = 'X' then readHexadecimal? digits else none with
    | some found => some (finite found)
    | none => (Fraction.read? text).map finite
  | char :: _ =>
    if char.isDigit || char = '.' then (Fraction.read? text).map finite
    else
      match afterWord? "infinity" text, afterWord? "inf" text, afterWord? "nan" text with
      | some rest, _, _ | none, some rest, _ => some (.infinite false, rest, true)
      | none, none, some rest => some (.undefined false, afterPayload rest, true)
      | none, none, none => none
  | [] => none

/-- The number that a text begins with, and the text behind it. Also says whether the format reaches so far. -/
def read? (format : BinaryFormat) (text : List Char) : Option (Floating × List Char × Bool) :=
  let (negative, unsigned) : Bool × List Char :=
    match text with
    | '-' :: rest => (true, rest)
    | '+' :: rest => (false, rest)
    | _ => (false, text)
  (format.readUnsigned? unsigned).map fun (value, rest, inRange) => (value.withSign negative, rest, inRange)

/-- The number that bits stand for: a sign, an exponent and a mantissa, the highest bit of which is left out if it
goes without saying. Where it could be left out but is missing, there is no number. -/
def ofBits (format : BinaryFormat) (exponentBits : Nat) (hidesHighest : Bool) (value : Nat) : Floating :=
  let mantissaBits := if hidesHighest then format.bits - 1 else format.bits
  let mantissa := value % (1 <<< mantissaBits)
  let exponent := (value >>> mantissaBits) % (1 <<< exponentBits)
  let negative := (value >>> (mantissaBits + exponentBits)) % 2 = 1
  let fraction := mantissa % (1 <<< (format.bits - 1))
  if !hidesHighest && exponent ≠ 0 && mantissa = fraction then .undefined negative
  else if exponent + 1 = 1 <<< exponentBits then if fraction = 0 then .infinite negative else .undefined negative
  else if exponent = 0 then .finite negative mantissa format.least
  else
    .finite negative (if hidesHighest then mantissa + (1 <<< mantissaBits) else mantissa)
      (format.least + exponent - 1)

end BinaryFormat

end Pipework
